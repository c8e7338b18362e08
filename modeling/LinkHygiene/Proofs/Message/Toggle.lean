import LinkHygiene.Proofs.Message.Order
import LinkHygiene.Proofs.Results
import LinkHygiene.Proofs.Url.Rereading

/-!
# Toggling parameters

A parameter that a link has is dropped with all its values; one that it lacks is taken back
with its first value from the raw link. Nothing else happens to the pairs but that they are
sorted, and a link is refused only when it is needed and is no URL.
-/

namespace LinkHygiene

namespace Message

open Form (Pair)

/-- What becomes of pairs when a parameter is dropped from them or taken back from a raw link. -/
inductive Toggles (pairs : List Pair) (raw param : String) :
    Except LinkError (List Pair) → Prop where
  | dropped (present : ∃ p ∈ pairs, p.name = param) :
      Toggles pairs raw param (.ok (pairs.filter fun p => p.name != param))
  | refused {cause : UrlError} (absent : ∀ p ∈ pairs, p.name ≠ param)
      (unread : Url.parse raw = .error cause) : Toggles pairs raw param (.error ⟨raw, cause⟩)
  | restored {u : Url} {first : Pair} (absent : ∀ p ∈ pairs, p.name ≠ param)
      (read : Url.parse raw = .ok u) (head : (named param u.queryPairs).head? = some first) :
      Toggles pairs raw param (.ok (pairs ++ [first]))
  | unknown {u : Url} (absent : ∀ p ∈ pairs, p.name ≠ param) (read : Url.parse raw = .ok u)
      (missing : ∀ p ∈ u.queryPairs, p.name ≠ param) : Toggles pairs raw param (.ok pairs)

/-- The URL whose text a link is toggled to. -/
def toggled (current raw param : String) : Except LinkError Url := do
  let u ← readLink current
  let pairs ← toggledPairs u.queryPairs raw param
  pure (u.setQueryPairs (sortPairs pairs))

/-! ## Pairs that are dropped and taken back -/

theorem named_dropped_of_ne {name param : String} (h : name ≠ param) (pairs : List Pair) :
    named name (pairs.filter fun p => p.name != param) = named name pairs := by
  unfold named
  rw [List.filter_filter]
  apply List.filter_congr
  intro p _
  by_cases hname : p.name = name
  · simp [hname, h]
  · simp [hname]

theorem not_mem_dropped {param : String} {pairs : List Pair} :
    ∀ p ∈ pairs.filter fun p => p.name != param, p.name ≠ param := by
  intro p hp
  simpa using (List.mem_filter.1 hp).2

theorem named_dropped_self (param : String) (pairs : List Pair) :
    named param (pairs.filter fun p => p.name != param) = [] :=
  named_eq_nil_iff.2 not_mem_dropped

/-- Of a parameter that was dropped and taken back there is only its first value. -/
theorem named_restored {param : String} {pairs : List Pair} {first : Pair}
    (h : (named param pairs).head? = some first) (name : String) :
    named name ((pairs.filter fun p => p.name != param) ++ [first]) =
      if name = param then [first] else named name pairs := by
  obtain rfl : first.name = param := (mem_named.1 (List.mem_of_head? h)).2
  rw [named_append]
  split
  · rename_i heq
    rw [heq, named_dropped_self, named_singleton_self, List.nil_append]
  · rename_i hne
    rw [named_dropped_of_ne hne, named_singleton_of_ne hne, List.append_nil]

/-! ## Steps -/

theorem readLink_eq_ok_iff {link : String} {u : Url} :
    readLink link = .ok u ↔ Url.parse link = .ok u := by
  unfold readLink
  cases Url.parse link <;> simp

theorem readLink_eq_error_iff {link : String} {e : LinkError} :
    readLink link = .error e ↔ e.link = link ∧ Url.parse link = .error e.cause := by
  obtain ⟨failed, cause⟩ := e
  unfold readLink
  cases Url.parse link <;> simp [eq_comm]

theorem toggles_toggledPairs (pairs : List Pair) (raw param : String) :
    Toggles pairs raw param (toggledPairs pairs raw param) := by
  unfold toggledPairs
  split
  · rename_i hany
    exact .dropped (by simpa using hany)
  · rename_i hany
    have habsent : ∀ p ∈ pairs, p.name ≠ param := by simpa using hany
    split
    · rename_i e hraw
      obtain ⟨rfl, hparse⟩ := readLink_eq_error_iff.1 hraw
      exact .refused habsent hparse
    · rename_i u hraw
      have hparse := readLink_eq_ok_iff.1 hraw
      rw [← List.head?_filter]
      change Toggles pairs raw param (.ok (pairs ++ (named param u.queryPairs).head?.toList))
      cases hhead : (named param u.queryPairs).head? with
      | some first => exact .restored habsent hparse hhead
      | none =>
          rw [List.head?_eq_none_iff, named_eq_nil_iff] at hhead
          simpa using Toggles.unknown habsent hparse hhead

theorem Toggles.toggledPairs_eq {pairs : List Pair} {raw param : String}
    {result : Except LinkError (List Pair)} (h : Toggles pairs raw param result) :
    toggledPairs pairs raw param = result := by
  have habsent : (∀ p ∈ pairs, p.name ≠ param) → ¬ pairs.any (·.name == param) = true := by simp
  unfold toggledPairs
  cases h with
  | dropped hpresent => rw [if_pos (by simpa using hpresent)]
  | @refused cause hnone hunread =>
      have hread : readLink raw = .error ⟨raw, cause⟩ :=
        readLink_eq_error_iff.2 ⟨rfl, hunread⟩
      rw [if_neg (habsent hnone), hread]
  | restored hnone hread hhead =>
      rw [named, List.head?_filter] at hhead
      rw [if_neg (habsent hnone), readLink_eq_ok_iff.2 hread]
      dsimp only
      rw [hhead, Option.toList_some]
  | @unknown u hnone hread hmissing =>
      have hfind : u.queryPairs.find? (·.name == param) = none := by simpa using hmissing
      rw [if_neg (habsent hnone), readLink_eq_ok_iff.2 hread]
      dsimp only
      rw [hfind, Option.toList_none, List.append_nil]

theorem toggledPairs_eq_error_iff {pairs : List Pair} {raw param : String} {e : LinkError} :
    toggledPairs pairs raw param = .error e ↔
      (∀ p ∈ pairs, p.name ≠ param) ∧ e.link = raw ∧ Url.parse raw = .error e.cause := by
  constructor
  · intro h
    have htoggles := toggles_toggledPairs pairs raw param
    rw [h] at htoggles
    cases htoggles with
    | refused habsent hunread => exact ⟨habsent, rfl, hunread⟩
  · obtain ⟨link, cause⟩ := e
    rintro ⟨habsent, rfl, hunread⟩
    exact (Toggles.refused habsent hunread).toggledPairs_eq

theorem toggled_eq_ok_iff {current raw param : String} {v : Url} :
    toggled current raw param = .ok v ↔
      ∃ u pairs, Url.parse current = .ok u ∧ toggledPairs u.queryPairs raw param = .ok pairs ∧
        u.setQueryPairs (sortPairs pairs) = v := by
  have hpure : ∀ w : Url, (pure w : Except LinkError Url) = .ok v ↔ w = v :=
    fun w => iff_of_eq (Except.ok.injEq w v)
  simp only [toggled, bind_eq_ok_iff, readLink_eq_ok_iff, hpure]
  constructor
  · rintro ⟨u, hu, pairs, hpairs, hv⟩
    exact ⟨u, pairs, hu, hpairs, hv⟩
  · rintro ⟨u, pairs, hu, hpairs, hv⟩
    exact ⟨u, hu, pairs, hpairs, hv⟩

theorem toggled_eq_error_iff {current raw param : String} {e : LinkError} :
    toggled current raw param = .error e ↔
      (e.link = current ∧ Url.parse current = .error e.cause) ∨
        ∃ u, Url.parse current = .ok u ∧ toggledPairs u.queryPairs raw param = .error e := by
  have hpure : ∀ w : Url, (pure w : Except LinkError Url) ≠ .error e := fun w h => by cases h
  simp only [toggled, bind_eq_error_iff, readLink_eq_ok_iff, readLink_eq_error_iff, hpure,
    and_false, exists_false, or_false]

theorem toggled_eq {current raw param : String} {u : Url} {pairs sorted : List Pair}
    (hu : Url.parse current = .ok u) (hpairs : toggledPairs u.queryPairs raw param = .ok pairs)
    (hsorted : SortedFrom pairs sorted) :
    toggled current raw param = .ok (u.setQueryPairs sorted) :=
  toggled_eq_ok_iff.2 ⟨u, pairs, hu, hpairs, by rw [sortedFrom_iff.1 hsorted]⟩

theorem toggleParam_eq (current raw param : String) :
    toggleParam current raw param = (toggled current raw param).map Url.text := by
  unfold toggleParam toggled
  simp only [bind, Except.bind]
  split
  · rfl
  · split <;> rfl

theorem toggleParam_eq_ok_iff {current raw param out : String} :
    toggleParam current raw param = .ok out ↔
      ∃ v, toggled current raw param = .ok v ∧ v.text = out := by
  rw [toggleParam_eq]
  cases toggled current raw param <;> simp [Except.map]

theorem toggleParam_eq_error_iff {current raw param : String} {e : LinkError} :
    toggleParam current raw param = .error e ↔ toggled current raw param = .error e := by
  rw [toggleParam_eq]
  cases toggled current raw param <;> simp [Except.map]

/-! ## Toggling once -/

/--
Toggling fails exactly when the link is no URL, or lacks the parameter and the raw link is
none. Otherwise it drops the parameter or takes back its first value, and sorts the pairs;
without pairs there is no query. All other parts of a link with a host are kept. Here the
result is taken to be read as the URL whose text it is.
-/
theorem toggleParam_exactly {current raw param : String}
    (hreads : ∀ v, toggled current raw param = .ok v → Url.parse v.text = .ok v) :
    (∀ e, toggleParam current raw param = .error e ↔
      (e.link = current ∧ Url.parse current = .error e.cause) ∨
        ∃ u, Url.parse current = .ok u ∧ (∀ p ∈ u.queryPairs, p.name ≠ param) ∧
          e.link = raw ∧ Url.parse raw = .error e.cause) ∧
    ∀ out, toggleParam current raw param = .ok out →
      ∃ u v pairs, Url.parse current = .ok u ∧ Url.parse out = .ok v ∧
        Toggles u.queryPairs raw param (.ok pairs) ∧ SortedFrom pairs v.queryPairs ∧
        (v.query = none ↔ pairs = []) ∧
        ∀ host, u.hostText? = some host →
          v.scheme = u.scheme ∧ v.authority = u.authority ∧ v.path = u.path ∧
            v.fragment = u.fragment := by
  constructor
  · intro e
    rw [toggleParam_eq_error_iff, toggled_eq_error_iff]
    simp only [toggledPairs_eq_error_iff]
  · intro out hout
    obtain ⟨v, htoggled, rfl⟩ := toggleParam_eq_ok_iff.1 hout
    have hread := hreads v htoggled
    obtain ⟨u, pairs, hu, hpairs, rfl⟩ := toggled_eq_ok_iff.1 htoggled
    have htoggles := toggles_toggledPairs u.queryPairs raw param
    rw [hpairs] at htoggles
    have hsorted := sortedFrom_sortPairs pairs
    refine ⟨u, _, pairs, hu, hread, htoggles, ?_, ?_, fun host hhost => ?_⟩
    · rwa [Url.queryPairs_setQueryPairs]
    · rw [Url.query_setQueryPairs_eq_none_iff]
      constructor
      · intro hnil
        rw [hnil] at hsorted
        exact hsorted.perm.nil_eq.symm
      · rintro rfl
        exact (sortedFrom_sortPairs []).perm.eq_nil
    · have hplain := (Url.anchored_of_parse hu).isPlain_of_host hhost
      exact ⟨Url.scheme_setQueryPairs u _, Url.authority_setQueryPairs u _,
        Url.path_setQueryPairs hplain _, Url.fragment_setQueryPairs u _⟩

/-- A parameter is taken back with its first value, and sorted in front of the others. -/
theorem toggleParam_exactly_restored :
    let current := "https://a.example/p?b=2&c=3#top"
    let raw := "https://a.example/p?a=1&b=2&a=9"
    let out := "https://a.example/p?a=1&b=2&c=3#top"
    (∀ v, toggled current raw "a" = .ok v → Url.parse v.text = .ok v) ∧
      toggleParam current raw "a" = .ok out ∧
      ∃ v, Url.parse out = .ok v ∧ v.queryPairs = [⟨"a", "1"⟩, ⟨"b", "2"⟩, ⟨"c", "3"⟩] := by
  intro current raw out
  let u : Url := ⟨"https", some ⟨"", "", some (.name "a.example"), none⟩, .segments ["p"],
    some "b=2&c=3", some "top"⟩
  let pairs : List Pair := [⟨"b", "2"⟩, ⟨"c", "3"⟩, ⟨"a", "1"⟩]
  let sorted : List Pair := [⟨"a", "1"⟩, ⟨"b", "2"⟩, ⟨"c", "3"⟩]
  have hcurrent : Url.parse current = .ok u := eq_ok_of_toOption (by decide +kernel)
  have hpairs : toggledPairs u.queryPairs raw "a" = .ok pairs :=
    eq_ok_of_toOption (by decide +kernel)
  have hsorted : SortedFrom pairs sorted := by decide
  have htoggled := toggled_eq hcurrent hpairs hsorted
  have hreads : ∀ v, toggled current raw "a" = .ok v → Url.parse v.text = .ok v := by
    intro v hv
    rw [htoggled, Except.ok.injEq] at hv
    rw [← hv]
    exact eq_ok_of_toOption (by decide +kernel)
  have htext : (u.setQueryPairs sorted).text = out := by decide +kernel
  have hout := toggleParam_eq_ok_iff.2 ⟨_, htoggled, htext⟩
  obtain ⟨u', v, pairs', hu', hv, htoggles, hpairs', _⟩ := (toggleParam_exactly hreads).2 out hout
  rw [hcurrent, Except.ok.injEq] at hu'
  rw [← hu'] at htoggles
  obtain rfl := Except.ok.inj (htoggles.toggledPairs_eq.symm.trans hpairs)
  exact ⟨hreads, hout, v, hv, hpairs'.unique hsorted⟩

/-! ## Toggling again -/

/--
A link is toggled to the text of a URL with the sorted pairs. If that text is read at all, then
with these pairs, and it is read if the host is.
-/
theorem exists_toggleParam {current raw param : String} {u : Url}
    (h : Url.parse current = .ok u) {pairs : List Pair}
    (hpairs : toggledPairs u.queryPairs raw param = .ok pairs) :
    ∃ w : Url, toggleParam current raw param = .ok w.text ∧ SortedFrom pairs w.queryPairs ∧
      (∀ v, Url.parse w.text = .ok v → v.queryPairs = w.queryPairs) ∧
      (u.KeepsHost → ∃ v, Url.parse w.text = .ok v ∧ v.KeepsHost) := by
  have htoggled := toggled_eq_ok_iff.2 ⟨u, pairs, h, hpairs, rfl⟩
  refine ⟨_, toggleParam_eq_ok_iff.2 ⟨_, htoggled, rfl⟩, ?_, fun v hv => ?_, fun hhost => ?_⟩
  · rw [Url.queryPairs_setQueryPairs]
    exact sortedFrom_sortPairs pairs
  · rw [Url.queryPairs_of_parse_text h hv, Url.queryPairs_setQueryPairs]
  · exact Url.exists_parse_text_setQueryPairs h hhost _

theorem sortedFrom_of_toggleParam {current raw param out : String} {u v : Url}
    (h : Url.parse current = .ok u) {pairs : List Pair}
    (hpairs : toggledPairs u.queryPairs raw param = .ok pairs)
    (hout : toggleParam current raw param = .ok out) (hv : Url.parse out = .ok v) :
    SortedFrom pairs v.queryPairs := by
  obtain ⟨w, hw, hsorted, hsame, _⟩ := exists_toggleParam h hpairs
  obtain rfl := Except.ok.inj (hw.symm.trans hout)
  rwa [hsame v hv]

theorem exists_parse_of_toggleParam {current raw param out : String}
    (h : toggleParam current raw param = .ok out) : ∃ u, Url.parse current = .ok u := by
  obtain ⟨v, htoggled, _⟩ := toggleParam_eq_ok_iff.1 h
  obtain ⟨u, _, hu, _⟩ := toggled_eq_ok_iff.1 htoggled
  exact ⟨u, hu⟩

/--
A parameter that is dropped and taken back from the same link comes back with its first value
only. So all pairs are there again, in order, exactly when it had one value. Both steps succeed
if the host is read again.
-/
theorem toggle_off_and_on {link param : String} {u : Url} (h : Url.parse link = .ok u)
    (hpresent : ∃ p ∈ u.queryPairs, p.name = param) :
    ∃ off first, toggleParam link link param = .ok off ∧
      (named param u.queryPairs).head? = some first ∧
      (u.KeepsHost → ∃ on v, toggleParam off link param = .ok on ∧ Url.parse on = .ok v) ∧
      ∀ on v, toggleParam off link param = .ok on → Url.parse on = .ok v →
        SortedFrom ((u.queryPairs.filter fun p => p.name != param) ++ [first]) v.queryPairs ∧
        (SortedFrom u.queryPairs v.queryPairs ↔ (named param u.queryPairs).length = 1) := by
  obtain ⟨off, hoff, hdropped, hsame, hkeeps⟩ :=
    exists_toggleParam h (Toggles.dropped hpresent).toggledPairs_eq
  obtain ⟨first, hfirst⟩ : ∃ first, (named param u.queryPairs).head? = some first := by
    obtain ⟨p, hp, hname⟩ := hpresent
    exact ⟨_, List.head?_eq_some_head (List.ne_nil_of_mem (mem_named.2 ⟨hp, hname⟩))⟩
  have hrestored : ∀ w, Url.parse off.text = .ok w →
      toggledPairs w.queryPairs link param = .ok (off.queryPairs ++ [first]) := by
    intro w hw
    rw [hsame w hw]
    apply (Toggles.restored _ h hfirst).toggledPairs_eq
    exact fun p hp => not_mem_dropped p (hdropped.perm.mem_iff.1 hp)
  refine ⟨off.text, first, hoff, hfirst, fun hhost => ?_, fun on v hon hv => ?_⟩
  · obtain ⟨w, hw, hagain⟩ := hkeeps hhost
    obtain ⟨on, hon, _, _, hread⟩ := exists_toggleParam hw (hrestored w hw)
    obtain ⟨v, hv, _⟩ := hread hagain
    exact ⟨on.text, v, hon, hv⟩
  · obtain ⟨w, hw⟩ := exists_parse_of_toggleParam hon
    have hsorted : SortedFrom ((u.queryPairs.filter fun p => p.name != param) ++ [first])
        v.queryPairs := by
      apply (sortedFrom_of_toggleParam hw (hrestored w hw) hon hv).of_named
      intro name
      rw [named_append, named_append, hdropped.stable]
    refine ⟨hsorted, fun hall => ?_, fun hone => ?_⟩
    · rw [← hall.stable, hsorted.stable, named_restored hfirst, if_pos rfl]
      rfl
    · obtain ⟨p, hp⟩ := List.length_eq_one_iff.1 hone
      apply hsorted.of_named
      intro name
      rw [named_restored hfirst]
      split
      · rename_i heq
        rw [hp, List.head?_cons, Option.some.injEq] at hfirst
        rw [heq, hp, hfirst]
      · rfl

/-- A parameter with one value is back where it was, behind one of a smaller name. -/
theorem toggle_off_and_on_once :
    let link := "https://a.example/?b=2&a=1&c=3"
    let pairs : List Pair := [⟨"b", "2"⟩, ⟨"a", "1"⟩, ⟨"c", "3"⟩]
    ∃ off on v, toggleParam link link "b" = .ok off ∧ toggleParam off link "b" = .ok on ∧
      Url.parse on = .ok v ∧ SortedFrom pairs v.queryPairs := by
  intro link pairs
  let u : Url := ⟨"https", some ⟨"", "", some (.name "a.example"), none⟩, .segments [""],
    some "b=2&a=1&c=3", none⟩
  have hlink : Url.parse link = .ok u := eq_ok_of_toOption (by decide +kernel)
  have hpairs : u.queryPairs = pairs := by decide +kernel
  have hhost : u.KeepsHost := Url.keepsHost_of_host? rfl (by decide +kernel)
  have hpresent : ∃ p ∈ u.queryPairs, p.name = "b" := by rw [hpairs]; decide
  obtain ⟨off, _, hoff, _, hread, hagain⟩ := toggle_off_and_on hlink hpresent
  obtain ⟨on, v, hon, hv⟩ := hread hhost
  have hsorted := (hagain on v hon hv).2
  rw [hpairs] at hsorted
  exact ⟨off, on, v, hoff, hon, hv, hsorted.2 (by decide)⟩

/-- A parameter with two values has lost one of them when it is back. -/
theorem second_value_is_lost :
    let link := "https://a.example/?x=1&x=2"
    ∃ u v, Url.parse link = .ok u ∧ u.queryPairs = [⟨"x", "1"⟩, ⟨"x", "2"⟩] ∧
      toggleParam link link "x" = .ok "https://a.example/" ∧
      toggleParam "https://a.example/" link "x" = .ok "https://a.example/?x=1" ∧
      Url.parse "https://a.example/?x=1" = .ok v ∧ v.queryPairs = [⟨"x", "1"⟩] ∧
      ¬ SortedFrom u.queryPairs v.queryPairs := by
  intro link
  let u : Url := ⟨"https", some ⟨"", "", some (.name "a.example"), none⟩, .segments [""],
    some "x=1&x=2", none⟩
  have hu : Url.parse link = .ok u := eq_ok_of_toOption (by decide +kernel)
  have hoff : Url.parse "https://a.example/" = .ok { u with query := none } :=
    eq_ok_of_toOption (by decide +kernel)
  have hon : Url.parse "https://a.example/?x=1" = .ok { u with query := some "x=1" } :=
    eq_ok_of_toOption (by decide +kernel)
  refine ⟨u, _, hu, by decide +kernel, ?_, ?_, hon, by decide +kernel, by decide +kernel⟩
  · have hpairs : toggledPairs u.queryPairs link "x" = .ok [] :=
      eq_ok_of_toOption (by decide +kernel)
    have hsorted : SortedFrom [] [] := by decide
    exact toggleParam_eq_ok_iff.2 ⟨_, toggled_eq hu hpairs hsorted, by decide +kernel⟩
  · have hpairs : toggledPairs [] link "x" = .ok [⟨"x", "1"⟩] :=
      eq_ok_of_toOption (by decide +kernel)
    have hsorted : SortedFrom [⟨"x", "1"⟩] [⟨"x", "1"⟩] := by decide
    exact toggleParam_eq_ok_iff.2 ⟨_, toggled_eq hoff hpairs hsorted, by decide +kernel⟩

end Message

end LinkHygiene
