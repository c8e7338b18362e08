import LinkHygiene.Pattern.Template

/-!
# What groups capture

Whatever a pattern is, its groups match inside the text that is searched: walking along a
node only ever moves on in the text. So in a text without characters no group captures any.
-/

namespace LinkHygiene

namespace Pattern

variable {text : List Char}

def Place.Within (text : List Char) (p : Place) : Prop :=
  p.rest <:+ text

def Groups.Within (text : List Char) (gs : Groups) : Prop :=
  ∀ entry ∈ gs, entry.2.1.Within text

def Stays (text : List Char) (next : After) : Prop :=
  ∀ p gs q gs', p.Within text → Groups.Within text gs → next p gs = some (q, gs') →
    Groups.Within text gs'

theorem stays_end : Stays text fun p gs => some (p, gs) := by
  intro p gs q gs' _ hgs h
  obtain ⟨rfl, rfl⟩ := Prod.mk.inj (Option.some.inj h)
  exact hgs

/-- Whether a node can be walked before what stays within the text. -/
def Keeps (text : List Char) (step : Step) : Prop :=
  ∀ next, Stays text next → Stays text (step next)

theorem Stays.or {a b : After} (ha : Stays text a) (hb : Stays text b) :
    Stays text fun p gs => (a p gs).or (b p gs) := by
  intro p gs q gs' hp hgs h
  rcases Option.or_eq_some_iff.1 h with h | ⟨_, h⟩
  · exact ha p gs q gs' hp hgs h
  · exact hb p gs q gs' hp hgs h

theorem Stays.either {a b : After} (ha : Stays text a) (hb : Stays text b) (prefer : Bool) :
    Stays text fun p gs => Pattern.either prefer (fun _ => a p gs) (fun _ => b p gs) := by
  cases prefer with
  | true => exact ha.or hb
  | false => exact hb.or ha

/-! ## Single characters -/

theorem Place.Within.step? {p q : Place} {set : CharSet} (hp : p.Within text)
    (h : p.step? set = some q) : q.Within text := by
  unfold Place.step? at h
  split at h
  · rename_i c rest hrest
    split at h
    · obtain rfl := Option.some.inj h
      rw [Place.Within, hrest] at hp
      exact (List.suffix_cons c rest).trans hp
    · simp at h
  · simp at h

theorem within_of_mem_reachFrom {set : CharSet} {most : Option Nat} {passed : List Place}
    {index : Nat} {before : Option Char} {rest : List Char} {q : Place}
    (hpassed : ∀ p ∈ passed, p.Within text) (hrest : rest <:+ text)
    (hq : q ∈ reachFrom set most passed ⟨index, before, rest⟩ rest) : q.Within text := by
  induction rest generalizing most passed index before with
  | nil =>
      rcases List.mem_cons.1 hq with rfl | hq
      · exact hrest
      · exact hpassed q hq
  | cons c rest ih =>
      have hstops : q ∈ (⟨index, before, c :: rest⟩ : Place) :: passed → q.Within text := by
        intro hmem
        rcases List.mem_cons.1 hmem with rfl | hmem
        · exact hrest
        · exact hpassed q hmem
      unfold reachFrom at hq
      split at hq
      · exact hstops hq
      · split at hq
        · refine ih ?_ ((List.suffix_cons c rest).trans hrest) hq
          intro p hp
          rcases List.mem_cons.1 hp with rfl | hp
          · exact hrest
          · exact hpassed p hp
        · exact hstops hq

theorem within_of_mem_runEnds {set : CharSet} {least : Nat} {most : Option Nat}
    {greedy : Bool} {p q : Place} (hp : p.Within text) (hq : q ∈ runEnds set least most greedy p) :
    q.Within text := by
  have hreached : q ∈ reachFrom set most [] p p.rest := by
    unfold runEnds at hq
    dsimp only at hq
    split at hq
    · exact List.mem_of_mem_take hq
    · exact List.mem_of_mem_take (List.mem_reverse.1 hq)
  exact within_of_mem_reachFrom (by simp) hp hreached

/-! ## Repetitions -/

section Repetitions

variable {step : Step} (hstep : Keeps text step)

include hstep

theorem keeps_rounds (n : Nat) : Keeps text (rounds step n) := by
  induction n with
  | zero => exact fun _ hnext => hnext
  | succ n ih => exact fun next hnext => hstep _ (ih next hnext)

theorem keeps_upTo (greedy : Bool) (n : Nat) : Keeps text (upTo step greedy n) := by
  induction n with
  | zero => exact fun _ hnext => hnext
  | succ n ih => exact fun next hnext => (hstep _ (ih next hnext)).either hnext greedy

theorem stays_more (greedy : Bool) {next : After} (hnext : Stays text next)
    (left : List Char) : Stays text (more step greedy next left) := by
  induction left with
  | nil => exact hnext
  | cons c left ih =>
      intro p gs q gs' hp hgs h
      have hround : Stays text fun q gs =>
          if p.index < q.index then more step greedy next left q gs else none := by
        intro q gs r gs' hq hgs h
        dsimp only at h
        split at h
        · exact ih q gs r gs' hq hgs h
        · simp at h
      exact (hstep _ hround).either hnext greedy p gs q gs' hp hgs h

theorem keeps_oneOrMore (greedy : Bool) : Keeps text (oneOrMore step greedy) := by
  intro next hnext p gs q gs' hp hgs h
  have hround : Stays text fun q gs =>
      if p.index < q.index then more step greedy next q.rest q gs else next q gs := by
    intro q gs r gs' hq hgs h
    dsimp only at h
    split at h
    · exact stays_more hstep greedy hnext q.rest q gs r gs' hq hgs h
    · exact hnext q gs r gs' hq hgs h
  exact hstep _ hround p gs q gs' hp hgs h

theorem keeps_anyRounds (greedy : Bool) : Keeps text (anyRounds step greedy) :=
  fun next hnext => (keeps_oneOrMore hstep greedy next hnext).either hnext greedy

theorem keeps_repeated (least : Nat) (most : Option Nat) (greedy : Bool) :
    Keeps text (repeated step least most greedy) := by
  unfold repeated
  split
  · exact fun next hnext => keeps_rounds hstep _ _ (keeps_upTo hstep greedy _ next hnext)
  · split
    · exact keeps_anyRounds hstep greedy
    · exact fun next hnext => keeps_rounds hstep _ _ (keeps_oneOrMore hstep greedy next hnext)

end Repetitions

/-! ## Nodes -/

theorem keeps_walk (node : Node) : Keeps text node.walk := by
  induction node with
  | empty => exact fun _ hnext => hnext
  | one set =>
      intro next hnext p gs q gs' hp hgs h
      simp only [Node.walk] at h
      split at h
      · rename_i hone
        exact hnext _ gs q gs' (hp.step? hone) hgs h
      · simp at h
  | look what =>
      intro next hnext p gs q gs' hp hgs h
      simp only [Node.walk] at h
      split at h
      · exact hnext p gs q gs' hp hgs h
      · simp at h
  | seq a b iha ihb => exact fun next hnext => iha _ (ihb next hnext)
  | alt a b iha ihb => exact fun next hnext => (iha next hnext).or (ihb next hnext)
  | group index a ih =>
      intro next hnext p gs q gs' hp hgs h
      have hclosed : Stays text fun q gs => next q ((index, p, q) :: gs) := by
        intro q gs r gs' hq hgs h
        refine hnext q _ r gs' hq ?_ h
        intro entry hentry
        rcases List.mem_cons.1 hentry with rfl | hentry
        · exact hp
        · exact hgs entry hentry
      exact ih _ hclosed p gs q gs' hp hgs h
  | run set least most greedy =>
      intro next hnext p gs q gs' hp hgs h
      obtain ⟨stop, hstop, hrest⟩ := List.exists_of_findSome?_eq_some h
      exact hnext stop gs q gs' (within_of_mem_runEnds hp hstop) hgs hrest
  | loop a least most greedy ih => exact keeps_repeated ih least most greedy

/-! ## Searches -/

theorem Place.Within.textTo_isInfix {p : Place} (hp : p.Within text) (q : Place) :
    p.textTo q <:+: text :=
  (List.take_prefix _ _).isInfix.trans (List.IsSuffix.isInfix hp)

theorem Place.Within.of_matchAt {node : Node} {p q : Place} {gs : Groups} (hp : p.Within text)
    (h : matchAt node p = some (q, gs)) : Groups.Within text gs :=
  keeps_walk node _ stays_end p [] q gs hp (by simp [Groups.Within]) h

theorem within_of_searchFrom {node : Node} {passed rest : List Char} {index : Nat}
    {before : Option Char} {m : Match} (hrest : rest <:+ text)
    (h : searchFrom node passed ⟨index, before, rest⟩ rest = some m) :
    Groups.Within text m.groups ∧ m.matched <:+: text := by
  have hplace : ∀ index before, (⟨index, before, rest⟩ : Place).Within text :=
    fun _ _ => hrest
  induction rest generalizing passed index before with
  | nil =>
      unfold searchFrom at h
      split at h
      · rename_i q gs hmatch
        obtain rfl := Option.some.inj h
        exact ⟨(hplace index before).of_matchAt hmatch, (hplace index before).textTo_isInfix q⟩
      · simp at h
  | cons c rest ih =>
      unfold searchFrom at h
      split at h
      · rename_i q gs hmatch
        obtain rfl := Option.some.inj h
        exact ⟨(hplace index before).of_matchAt hmatch, (hplace index before).textTo_isInfix q⟩
      · have hlater := (List.suffix_cons c rest).trans hrest
        exact ih hlater h fun _ _ => hlater

/-- What a group captures stands in the text. -/
theorem isInfix_of_capture? {p : Pattern} {index : Nat} {found : List Char}
    (h : p.capture? index text = some found) : found <:+: text := by
  obtain ⟨m, hm, hgroup⟩ := Option.bind_eq_some_iff.1 h
  obtain ⟨hgroups, hmatched⟩ := within_of_searchFrom (List.suffix_refl text) hm
  unfold Match.group? at hgroup
  split at hgroup
  · obtain rfl := Option.some.inj hgroup
    exact hmatched
  · obtain ⟨entry, hentry, rfl⟩ := Option.map_eq_some_iff.1 hgroup
    have hwithin := hgroups entry (List.mem_of_find?_eq_some hentry)
    exact hwithin.textTo_isInfix entry.2.2

end Pattern

end LinkHygiene
