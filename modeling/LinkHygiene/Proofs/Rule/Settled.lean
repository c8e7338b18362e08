import LinkHygiene.Proofs.Url.Shape
import LinkHygiene.Rule.Apply
import LinkHygiene.Rule.Shipped

/-!
# Settled rules

Rules that rewrite URLs come to rest when a second application changes nothing: the URL
is then on its last host, and what the first rule has left of it is what the rule for
that host leaves. Whether all rules of a registry come to rest is seen from their hosts
and lists of parameters.
-/

namespace LinkHygiene

/-- What the rules do that rewrite URLs. -/
structure Rewriting where
  newHost : Option String
  policy : Policy
  unlisted : Bool

def RuleAction.rewriting? : RuleAction → Option Rewriting
  | hostReplace newHost policy => some ⟨newHost, policy, true⟩
  | paramClean policy => some ⟨none, policy, false⟩
  | _ => none

namespace Rewriting

def apply (w : Rewriting) (u : Url) : Url :=
  u.follow w.newHost w.policy w.unlisted

/-- Where a rewriting puts a URL before it turns to the parameters. -/
def relocate (w : Rewriting) (u : Url) : Url :=
  (u.moveTo w.newHost).editPath w.policy

theorem apply_eq (w : Rewriting) (u : Url) :
    w.apply u = (w.relocate u).setQueryPairs
      (w.policy.keepPairs w.unlisted (w.relocate u).queryPairs) := rfl

def admits (w : Rewriting) (key : String) : Bool :=
  match w.policy.keep with
  | some allowed => allowed.contains key
  | none => w.unlisted

end Rewriting

theorem Rule.apply_of_rewriting {r : Rule} {w : Rewriting}
    (h : r.action.rewriting? = some w) (u : Url) : r.apply u = w.apply u := by
  unfold RuleAction.rewriting? at h
  split at h
  · rename_i newHost policy haction
    obtain rfl := Option.some.inj h
    simp [Rule.apply, haction, Rewriting.apply]
  · rename_i policy haction
    obtain rfl := Option.some.inj h
    simp [Rule.apply, haction, Rewriting.apply]
  · simp at h

theorem Rule.apply_of_no_rewriting {r : Rule} (h : r.action.rewriting? = none) (u : Url) :
    r.apply u = u := by
  unfold Rule.apply
  cases haction : r.action <;> simp_all [RuleAction.rewriting?]

namespace Rewriting

/-! ## Relocating -/

theorem isPlain_moveTo {u : Url} (h : u.isPlain = false) (host : Option String) :
    (u.moveTo host).isPlain = false := by
  cases host with
  | none => exact h
  | some host =>
      cases hset : u.setHost? host with
      | none => simpa [Url.moveTo, hset] using h
      | some v => simpa [Url.moveTo, hset, Url.isPlain_setHost? hset] using h

theorem isPlain_relocate {u : Url} (h : u.isPlain = false) (w : Rewriting) :
    (w.relocate u).isPlain = false := by
  have hmoved := isPlain_moveTo h w.newHost
  unfold relocate Url.editPath
  split
  · exact hmoved
  · exact Url.isPlain_setPath hmoved _

theorem isPlain_apply {u : Url} (h : u.isPlain = false) (w : Rewriting) :
    (w.apply u).isPlain = false := by
  rw [apply_eq, Url.isPlain_setQueryPairs, isPlain_relocate h]

theorem host?_relocate (w : Rewriting) (u : Url) :
    (w.relocate u).host? = (u.moveTo w.newHost).host? := by
  unfold relocate Url.editPath
  split <;> rfl

theorem host?_relocate_of_newHost {w : Rewriting} {host : String} (hnew : w.newHost = some host)
    (hhost : Url.takesAsWritten host = true) {u : Url} (h : u.isPlain = false) :
    (w.relocate u).host? = some (.name host) := by
  rw [host?_relocate, hnew, Url.moveTo, Url.setHost?_of_takesAsWritten hhost h]
  rfl

/-- Whether a rewriting leaves URLs on this host where they are, and all names as they are. -/
def staysOn (w : Rewriting) (host : Option String) : Bool :=
  (w.newHost.isNone || w.newHost == host) && w.policy.pathEdits.isEmpty &&
    w.policy.renames.isEmpty

theorem relocate_of_staysOn {w : Rewriting} {host : Option String}
    (hstays : w.staysOn host = true) {u : Url} (hplain : u.isPlain = false)
    (hon : ∀ h, host = some h → Url.takesAsWritten h = true ∧ u.host? = some (.name h)) :
    w.relocate u = u := by
  simp only [staysOn, Bool.and_eq_true, Bool.or_eq_true, beq_iff_eq] at hstays
  obtain ⟨⟨hhost, hedits⟩, _⟩ := hstays
  have hmoved : u.moveTo w.newHost = u := by
    cases hnew : w.newHost with
    | none => rfl
    | some h =>
        have hsome : host = some h := by
          rw [hnew] at hhost
          rcases hhost with hnone | hsome
          · simp at hnone
          · exact hsome.symm
        obtain ⟨htakes, hself⟩ := hon h hsome
        rw [Url.moveTo, Url.setHost?_self htakes hplain hself]
        rfl
  rw [relocate, hmoved, Url.editPath, if_pos hedits]

/-! ## Parameters -/

theorem mem_keepPairs {w : Rewriting} {pairs : List Form.Pair} {pair : Form.Pair}
    (h : pair ∈ w.policy.keepPairs w.unlisted pairs) :
    w.admits (Text.lowered pair.name) = true := by
  simp only [Policy.keepPairs, List.mem_filterMap] at h
  obtain ⟨old, _, hkept⟩ := h
  split at hkept
  · rename_i hretains
    obtain rfl := Option.some.inj hkept
    exact hretains
  · simp at hkept

/-- Without new names, pairs that are all admitted stay as they are. -/
theorem keepPairs_of_admitted {w : Rewriting} (hnames : w.policy.renames.isEmpty = true)
    {pairs : List Form.Pair} (h : ∀ pair ∈ pairs, w.admits (Text.lowered pair.name) = true) :
    w.policy.keepPairs w.unlisted pairs = pairs := by
  have hkey : ∀ key, w.policy.effectiveKey key = key := by
    intro key
    simp [Policy.effectiveKey, List.isEmpty_iff.1 hnames]
  induction pairs with
  | nil => rfl
  | cons pair pairs ih =>
      have hpair : w.policy.retains pair.name w.unlisted = true := h pair List.mem_cons_self
      have hrest := ih fun p hp => h p (List.mem_cons_of_mem pair hp)
      simp only [Policy.keepPairs, hkey] at hrest ⊢
      rw [List.filterMap_cons, if_pos hpair, hrest]

/-- A rewriting changes nothing once a URL is where it stays and holds only what it admits. -/
theorem apply_of_staysOn {w : Rewriting} {host : Option String}
    (hstays : w.staysOn host = true) {u : Url} (hplain : u.isPlain = false)
    (hon : ∀ h, host = some h → Url.takesAsWritten h = true ∧ u.host? = some (.name h))
    {pairs : List Form.Pair} (h : ∀ pair ∈ pairs, w.admits (Text.lowered pair.name) = true) :
    w.apply (u.setQueryPairs pairs) = u.setQueryPairs pairs := by
  have hrelocate : w.relocate (u.setQueryPairs pairs) = u.setQueryPairs pairs := by
    apply relocate_of_staysOn hstays
    · rw [Url.isPlain_setQueryPairs, hplain]
    · intro h hh
      rw [Url.host?_setQueryPairs]
      exact hon h hh
  have hnames : w.policy.renames.isEmpty = true := by
    simp only [staysOn, Bool.and_eq_true] at hstays
    exact hstays.2
  rw [apply_eq, hrelocate, Url.queryPairs_setQueryPairs, keepPairs_of_admitted hnames h,
    Url.setQueryPairs_setQueryPairs hplain]

def admitsAllOf (later earlier : Rewriting) : Bool :=
  match earlier.policy.keep with
  | some allowed => allowed.all later.admits
  | none => !earlier.unlisted || (later.policy.keep.isNone && later.unlisted)

theorem admits_of_admitsAllOf {later earlier : Rewriting}
    (h : later.admitsAllOf earlier = true) {key : String} (hkey : earlier.admits key = true) :
    later.admits key = true := by
  unfold admitsAllOf at h
  cases hkeep : earlier.policy.keep with
  | some allowed =>
      rw [hkeep] at h
      have hmem : key ∈ allowed := by simpa [admits, hkeep] using hkey
      exact List.all_eq_true.1 h key hmem
  | none =>
      have hunlisted : earlier.unlisted = true := by simpa [admits, hkeep] using hkey
      rw [hkeep] at h
      simp only [hunlisted, Bool.not_true, Bool.false_or, Bool.and_eq_true,
        Option.isNone_iff_eq_none] at h
      simp [admits, h.1, h.2]

end Rewriting

namespace Registry

/-! ## Registries -/

/-- Whether one rewriting changes nothing in what another one has left on a host. -/
def restsAfter (registry : Registry) (w : Rewriting) : Bool :=
  match w.newHost with
  | none => w.staysOn none
  | some host =>
      Url.takesAsWritten host &&
        (match registry.find? host with
          | none => true
          | some next =>
              match next.action.rewriting? with
              | some v => v.staysOn (some host) && v.admitsAllOf w
              | none => false)

/-- Whether a rule is found by the hosts it names only, and what it rewrites comes to rest. -/
def settles (registry : Registry) (rule : Rule) : Bool :=
  !rule.hostnames.isEmpty && !rule.names "" &&
    rule.action.rewriting?.all registry.restsAfter

def settled (registry : Registry) : Bool :=
  registry.rules.all registry.settles

theorem mem_of_find? {registry : Registry} {host : String} {rule : Rule}
    (h : registry.find? host = some rule) : rule ∈ registry.rules := by
  rw [find?_eq, Option.or_eq_some_iff] at h
  rcases h with hnamed | ⟨_, hcaught⟩
  · exact List.mem_of_find?_eq_some hnamed
  · exact List.mem_of_find?_eq_some hcaught

theorem find?_empty {registry : Registry} (h : registry.settled = true) :
    registry.find? "" = none := by
  have hrules : ∀ rule ∈ registry.rules, rule.hostnames.isEmpty = false ∧
      rule.names "" = false := by
    intro rule hrule
    have hsettles := List.all_eq_true.1 h rule hrule
    simp only [settles, Bool.and_eq_true, Bool.not_eq_true'] at hsettles
    exact hsettles.1
  have hlower : Text.asciiLowered "" = "" := by decide
  rw [find?_eq, hlower]
  have hnames : registry.rules.find? (·.names "") = none := by
    rw [List.find?_eq_none]
    intro rule hrule
    simp [(hrules rule hrule).2]
  have hcatches : registry.rules.find? (·.catches "") = none := by
    rw [List.find?_eq_none]
    intro rule hrule
    simp [Rule.catches, (hrules rule hrule).1]
  rw [hnames, hcatches, Option.or_none]

end Registry

end LinkHygiene
