import LinkHygiene.Proofs.Url.Form
import LinkHygiene.Url.Edit

/-!
# Authorities in writing

Nothing in a written authority ends it too early: credentials are escaped, a host holds no
separator outside its brackets, and a port is a number. So the parts that it was written from
are found again, whatever path follows.
-/

namespace LinkHygiene

/-! ## Digits -/

namespace Address

theorem exists_of_mem_toDigits {base n : Nat} (hbase : 1 < base) {c : Char}
    (h : c ∈ Nat.toDigits base n) : ∃ digit < base, c = digit.digitChar := by
  induction n using Nat.strongRecOn with
  | ind n ih =>
      by_cases hlt : n < base
      · rw [Nat.toDigits_of_lt_base hlt, List.mem_singleton] at h
        exact ⟨n, hlt, h⟩
      · have hle : base ≤ n := Nat.le_of_not_lt hlt
        rw [Nat.toDigits_of_base_le hbase hle, List.mem_append, List.mem_singleton] at h
        rcases h with h | rfl
        · exact ih (n / base) (Nat.div_lt_self (by omega) hbase) h
        · exact ⟨n % base, Nat.mod_lt n (by omega), rfl⟩

theorem isDigit_digitChar {digit : Nat} (h : digit < 10) : isDigit digit.digitChar = true := by
  revert h
  revert digit
  decide

theorem isDigit_of_mem_toDigits {n : Nat} {c : Char} (h : c ∈ Nat.toDigits 10 n) :
    isDigit c = true := by
  obtain ⟨digit, hlt, rfl⟩ := exists_of_mem_toDigits (by decide) h
  exact isDigit_digitChar hlt

theorem numberIn?_append (radix value : Nat) (s t : List Char) :
    numberIn? radix value (s ++ t) =
      (numberIn? radix value s).bind fun read => numberIn? radix read t := by
  induction s generalizing value with
  | nil => rfl
  | cons c s ih =>
      rw [List.cons_append, numberIn?, numberIn?]
      cases digitIn? radix c with
      | none => rfl
      | some digit => exact ih _

theorem digitIn?_digitChar {digit : Nat} (h : digit < 10) :
    digitIn? 10 digit.digitChar = some digit := by
  revert h
  revert digit
  decide

theorem numberIn?_toDigits (n : Nat) : numberIn? 10 0 (Nat.toDigits 10 n) = some n := by
  induction n using Nat.strongRecOn with
  | ind n ih =>
      by_cases hlt : n < 10
      · simp [Nat.toDigits_of_lt_base hlt, numberIn?, digitIn?_digitChar hlt]
      · have hle : 10 ≤ n := Nat.le_of_not_lt hlt
        have hlast : n % 10 < 10 := Nat.mod_lt n (by decide)
        rw [Nat.toDigits_of_base_le (by decide) hle, numberIn?_append,
          ih (n / 10) (Nat.div_lt_self (by omega) (by decide))]
        simp only [Option.bind_some, numberIn?, digitIn?_digitChar hlast]
        congr 1
        omega

end Address

/-! ## Hosts -/

namespace Host

/-- A text that can be written as a host: it holds no separator outside its brackets. -/
inductive Delimited : List Char → Prop where
  | bare {s : List Char} (h : ∀ c ∈ s, Domain.isForbidden c = false) : Delimited s
  | bracketed {inside : List Char} (h : ∀ c ∈ inside, c = ':' ∨ Domain.isForbidden c = false) :
      Delimited ('[' :: inside ++ [']'])

theorem isForbidden_digitChar {digit : Nat} (h : digit < 16) :
    Domain.isForbidden digit.digitChar = false := by
  revert h
  revert digit
  decide

theorem isForbidden_of_mem_toDigits {base n : Nat} (hbase : 1 < base) (hle : base ≤ 16)
    {c : Char} (h : c ∈ Nat.toDigits base n) : Domain.isForbidden c = false := by
  obtain ⟨digit, hlt, rfl⟩ := Address.exists_of_mem_toDigits hbase h
  exact isForbidden_digitChar (by omega)

theorem not_forbidden_of_toAscii? {name ascii : List Char}
    (h : Domain.toAscii? name = some ascii) : ∀ c ∈ ascii, Domain.isForbidden c = false := by
  unfold Domain.toAscii? at h
  split at h
  · simp at h
  · dsimp only at h
    split at h
    · simp at h
    · split at h
      · simp at h
      · rename_i hnone
        split at h
        · simp at h
        · obtain rfl := Option.some.inj h
          simpa using hnone

theorem delimited_renderV4 (address : Nat) : Delimited (Address.renderV4 address) := by
  apply Delimited.bare
  intro c hc
  rcases Text.mem_joinWith hc with hdot | ⟨field, hfield, hc⟩
  · rw [List.mem_singleton] at hdot
    subst hdot
    decide
  · obtain ⟨place, _, rfl⟩ := List.mem_map.1 hfield
    rw [Nat.toString_eq_ofList_toDigits, String.toList_ofList] at hc
    exact isForbidden_of_mem_toDigits (by decide) (by decide) hc

theorem mem_hexGroups {groups : List Nat} {c : Char}
    (h : c ∈ Text.joinWith [':'] (groups.map Address.hexText)) :
    c = ':' ∨ Domain.isForbidden c = false := by
  rcases Text.mem_joinWith h with hcolon | ⟨field, hfield, hc⟩
  · exact .inl (List.mem_singleton.1 hcolon)
  · obtain ⟨group, _, rfl⟩ := List.mem_map.1 hfield
    exact .inr (isForbidden_of_mem_toDigits (by decide) (by decide) hc)

theorem delimited_renderV6 (groups : List Nat) :
    Delimited ('[' :: Address.renderV6 groups ++ [']']) := by
  apply Delimited.bracketed
  intro c hc
  unfold Address.renderV6 at hc
  dsimp only at hc
  split at hc
  · exact mem_hexGroups hc
  · simp only [List.mem_append, List.mem_cons, List.not_mem_nil, or_false, or_self] at hc
    rcases hc with (hc | hc) | hc
    · exact mem_hexGroups hc
    · exact .inl hc
    · exact mem_hexGroups hc

theorem parse_nil : parse [] = .error .emptyHost := rfl

theorem render_ne_nil_of_parse {host read : Host} (h : parse host.render = .ok read) :
    host.render ≠ [] := by
  intro hempty
  rw [hempty, parse_nil] at h
  contradiction

theorem exists_of_bracketed? {s : List Char} {host : Host} (h : bracketed? s = some (.ok host)) :
    ∃ groups, host = .v6 groups := by
  unfold bracketed? at h
  split at h
  · have hread := Option.some.inj h
    split at hread
    · split at hread
      · exact ⟨_, (Except.ok.inj hread).symm⟩
      · simp at hread
    · simp at hread
  · simp at h

theorem delimited_of_parse {s : List Char} {host : Host} (h : parse s = .ok host) :
    Delimited host.render := by
  unfold parse at h
  split at h
  · rename_i result hbracketed
    rw [h] at hbracketed
    obtain ⟨groups, rfl⟩ := exists_of_bracketed? hbracketed
    exact delimited_renderV6 groups
  · split at h
    · simp at h
    · split at h
      · simp at h
      · simp at h
      · rename_i ascii _ hascii
        split at h
        · split at h
          · obtain rfl := Except.ok.inj h
            exact delimited_renderV4 _
          · simp at h
        · obtain rfl := Except.ok.inj h
          apply Delimited.bare
          rw [render, String.toList_ofList]
          exact not_forbidden_of_toAscii? hascii

theorem renderV4_ne_nil (address : Nat) : Address.renderV4 address ≠ [] := by
  simp [Address.renderV4, Text.joinWith]

theorem render_ne_nil {s : List Char} {host : Host} (h : parse s = .ok host) :
    host.render ≠ [] := by
  unfold parse at h
  split at h
  · rename_i result hbracketed
    rw [h] at hbracketed
    obtain ⟨groups, rfl⟩ := exists_of_bracketed? hbracketed
    simp [render]
  · split at h
    · simp at h
    · split at h
      · simp at h
      · simp at h
      · rename_i ascii hne _
        split at h
        · split at h
          · obtain rfl := Except.ok.inj h
            exact renderV4_ne_nil _
          · simp at h
        · obtain rfl := Except.ok.inj h
          simpa [render] using hne

end Host

/-! ## The characters of an authority -/

namespace Url

/-- Whether a character leaves an authority as it is, wherever it stands in it. -/
def isInert (c : Char) : Bool :=
  !isMargin c && !(['/', '\\', '?', '#', '@'].contains c)

theorem isInert_of_not_forbidden {c : Char} (h : Domain.isForbidden c = false) :
    isInert c = true := by
  simp only [Domain.isForbidden, Bool.or_eq_false_iff, List.contains_cons, beq_eq_false_iff_ne,
    decide_eq_false_iff_not] at h
  simp [isInert, isMargin, h]

theorem isInert_of_delimited {s : List Char} (h : Host.Delimited s) {c : Char} (hc : c ∈ s) :
    isInert c = true := by
  cases h with
  | bare h => exact isInert_of_not_forbidden (h c hc)
  | bracketed h =>
      simp only [List.mem_append, List.mem_cons, List.not_mem_nil, or_false] at hc
      rcases hc with (rfl | hc) | rfl
      · decide
      · rcases h c hc with rfl | hforbidden
        · decide
        · exact isInert_of_not_forbidden hforbidden
      · decide

/-- Of the characters that are trimmed off, only the blank is not escaped everywhere. -/
theorem not_isMargin_of_not_inControls {c : Char} (h : Percent.inControls c = false)
    (hblank : c ≠ ' ') : isMargin c = false := by
  simp only [Percent.inControls, Bool.or_eq_false_iff, decide_eq_false_iff_not] at h
  have hcode : c.toNat ≠ 0x20 := by
    intro heq
    exact hblank (by rw [← Char.ofNat_toNat c, heq])
  have hmargin : ¬ c.toNat ≤ 0x20 := by omega
  simp [isMargin, hmargin]

theorem not_isMargin_of_not_inFragment {c : Char} (h : Percent.inFragment c = false) :
    isMargin c = false := by
  simp only [Percent.inFragment, Bool.or_eq_false_iff, List.contains_cons,
    beq_eq_false_iff_ne] at h
  exact not_isMargin_of_not_inControls h.1 h.2.1

theorem isInert_of_not_inUserinfo {c : Char} (h : Percent.inUserinfo c = false) :
    isInert c = true := by
  simp only [Percent.inUserinfo, Percent.inPath, Bool.or_eq_false_iff, List.contains_cons,
    beq_eq_false_iff_ne] at h
  simp [isInert, not_isMargin_of_not_inFragment h.1.1, h]

theorem isInert_of_mem_escaped {s : List Char} {c : Char}
    (h : c ∈ Percent.encode Percent.inUserinfo s) : isInert c = true := by
  apply Percent.of_mem_encode h (by decide) (by decide)
  exact fun d _ hplain => isInert_of_not_inUserinfo hplain

theorem not_isSlash_of_isInert {c : Char} (h : isInert c = true) (kind : SchemeKind) :
    isSlash kind c = false := by
  simp only [isInert, List.contains_cons, Bool.and_eq_true, Bool.not_eq_true',
    Bool.or_eq_false_iff] at h
  simp [isSlash, h]

def StartsPath (rest : List Char) : Prop :=
  rest = [] ∨ ∃ path, rest = '/' :: path

section BeforePath

variable {kind : SchemeKind} {s rest : List Char} (hs : ∀ c ∈ s, isSlash kind c = false)
  (hrest : StartsPath rest)

include hs hrest

theorem takeWhile_before_path : (s ++ rest).takeWhile (fun c => !isSlash kind c) = s := by
  rw [List.takeWhile_append_of_pos]
  · rcases hrest with rfl | ⟨path, rfl⟩ <;> simp [isSlash]
  · intro c hc
    rw [hs c hc, Bool.not_false]

theorem dropWhile_before_path : (s ++ rest).dropWhile (fun c => !isSlash kind c) = rest := by
  rw [List.dropWhile_append_of_pos]
  · rcases hrest with rfl | ⟨path, rfl⟩ <;> simp [isSlash]
  · intro c hc
    rw [hs c hc, Bool.not_false]

end BeforePath

/-! ## Reading an authority -/

/-- A host goes on as long as there is no bracket, and no colon outside of brackets. -/
theorem hostLength_append {inBrackets : Bool} {s : List Char}
    (h : ∀ c ∈ s, (c = ':' → inBrackets = true) ∧ c ≠ '[' ∧ c ≠ ']') (rest : List Char) :
    hostLength inBrackets (s ++ rest) = s.length + hostLength inBrackets rest := by
  induction s with
  | nil => rw [List.nil_append, List.length_nil, Nat.zero_add]
  | cons c s ih =>
      obtain ⟨hcolon, hopen, hclose⟩ := h c List.mem_cons_self
      have hgoes : ¬ (decide (c = ':') && !inBrackets) = true := by
        simp only [Bool.and_eq_true, decide_eq_true_eq, Bool.not_eq_true', not_and]
        intro hc
        rw [hcolon hc]
        decide
      rw [List.cons_append, hostLength, if_neg hgoes, if_neg hopen, if_neg hclose,
        ih fun d hd => h d (List.mem_cons_of_mem c hd), List.length_cons]
      omega

theorem ne_of_not_forbidden {c : Char} (h : Domain.isForbidden c = false) :
    c ≠ ':' ∧ c ≠ '[' ∧ c ≠ ']' := by
  refine ⟨?_, ?_, ?_⟩ <;> rintro rfl <;> revert h <;> decide

/-- A host ends where it ends in writing, at the end of the text or before a port. -/
theorem hostLength_of_delimited {s rest : List Char} (h : Host.Delimited s)
    (hrest : rest = [] ∨ ∃ digits, rest = ':' :: digits) :
    hostLength false (s ++ rest) = s.length := by
  have hend : hostLength false rest = 0 := by
    rcases hrest with rfl | ⟨digits, rfl⟩ <;> simp [hostLength]
  cases h with
  | bare h =>
      have hbare : ∀ c ∈ s, (c = ':' → false = true) ∧ c ≠ '[' ∧ c ≠ ']' := by
        intro c hc
        obtain ⟨hcolon, hbrackets⟩ := ne_of_not_forbidden (h c hc)
        exact ⟨fun heq => absurd heq hcolon, hbrackets⟩
      rw [hostLength_append hbare, hend, Nat.add_zero]
  | @bracketed inside h =>
      have hinside : ∀ c ∈ inside, (c = ':' → true = true) ∧ c ≠ '[' ∧ c ≠ ']' := by
        intro c hc
        refine ⟨fun _ => rfl, ?_⟩
        rcases h c hc with rfl | hforbidden
        · decide
        · exact (ne_of_not_forbidden hforbidden).2
      calc
        hostLength false ('[' :: inside ++ [']'] ++ rest) =
            1 + hostLength true (inside ++ ']' :: rest) := by simp [hostLength]
        _ = 1 + (inside.length + (1 + hostLength false rest)) := by
            rw [hostLength_append hinside]
            simp [hostLength]
        _ = ('[' :: inside ++ [']']).length := by
            rw [hend]
            simp only [List.length_append, List.length_cons, List.length_nil]
            omega

end Url

structure Host.SetOff (s : List Char) : Prop where
  inert : ∀ c ∈ s, Url.isInert c = true
  ends : ∀ rest, (rest = [] ∨ ∃ digits, rest = ':' :: digits) →
    Url.hostLength false (s ++ rest) = s.length

namespace Host

theorem setOff_nil : SetOff [] := by
  refine ⟨by simp, fun rest hrest => ?_⟩
  rcases hrest with rfl | ⟨digits, rfl⟩ <;> simp [Url.hostLength]

theorem Delimited.setOff {s : List Char} (h : Delimited s) : SetOff s :=
  ⟨fun _ hc => Url.isInert_of_delimited h hc, fun _ hrest => Url.hostLength_of_delimited h hrest⟩

theorem inert_of_opaque_name {s : List Char} (h : s.any isForbiddenOpaque = false) {c : Char}
    (hc : c ∈ Percent.encode Percent.inControls s) :
    Url.isInert c = true ∧ c ≠ ':' ∧ c ≠ '[' ∧ c ≠ ']' := by
  apply Percent.of_mem_encode hc (by decide) (by decide)
  intro d hd hplain
  have hallowed : isForbiddenOpaque d = false := by
    simpa using List.any_eq_false.1 h d hd
  simp only [isForbiddenOpaque, List.contains_cons, Bool.or_eq_false_iff,
    beq_eq_false_iff_ne] at hallowed
  have hmargin := Url.not_isMargin_of_not_inControls hplain hallowed.2.2.2.2.1
  simp [Url.isInert, hmargin, hallowed]

theorem setOff_of_parseOpaque {s : List Char} {host : Host} (h : parseOpaque s = .ok host) :
    SetOff host.render := by
  unfold parseOpaque at h
  split at h
  · rename_i result hbracketed
    rw [h] at hbracketed
    obtain ⟨groups, rfl⟩ := exists_of_bracketed? hbracketed
    exact (delimited_renderV6 groups).setOff
  · split at h
    · simp at h
    · rename_i hallowed
      obtain rfl := Except.ok.inj h
      rw [Bool.not_eq_true] at hallowed
      rw [render, String.toList_ofList]
      refine ⟨fun c hc => (inert_of_opaque_name hallowed hc).1, fun rest hrest => ?_⟩
      have hends := setOff_nil.ends rest hrest
      rw [Url.hostLength_append fun c hc => ?_]
      · simpa using hends
      · obtain ⟨_, hcolon, hbrackets⟩ := inert_of_opaque_name hallowed hc
        exact ⟨fun heq => absurd heq hcolon, hbrackets⟩

theorem render_ne_nil_of_parseOpaque {s : List Char} {host : Host} (hne : s ≠ [])
    (h : parseOpaque s = .ok host) : host.render ≠ [] := by
  unfold parseOpaque at h
  split at h
  · rename_i result hbracketed
    rw [h] at hbracketed
    obtain ⟨groups, rfl⟩ := exists_of_bracketed? hbracketed
    simp [render]
  · split at h
    · simp at h
    · obtain rfl := Except.ok.inj h
      obtain ⟨c, rest, rfl⟩ := List.exists_cons_of_ne_nil hne
      obtain ⟨d, escaped, hescaped, _⟩ := Percent.exists_encode_cons Percent.inControls c rest
      rw [render, String.toList_ofList, hescaped]
      exact List.cons_ne_nil d escaped

theorem setOff_of_parseHostFor {kind : SchemeKind} {s : List Char} {host : Host} (hne : s ≠ [])
    (h : Url.parseHostFor kind s = .ok host) : SetOff host.render ∧ host.render ≠ [] := by
  unfold Url.parseHostFor at h
  split at h
  · exact ⟨(delimited_of_parse h).setOff, render_ne_nil h⟩
  · exact ⟨setOff_of_parseOpaque h, render_ne_nil_of_parseOpaque hne h⟩

end Host

namespace Url

theorem readPort_toDigits {port : Nat} (hport : port ≤ maxPort) {rest : List Char}
    (hrest : StartsPath rest) (scheme : String) :
    ∃ read, readPort scheme (Nat.toDigits 10 port ++ rest) = .ok (read, rest) := by
  have hdigits : ∀ c ∈ Nat.toDigits 10 port, Address.isDigit c = true :=
    fun c hc => Address.isDigit_of_mem_toDigits hc
  have htake : (Nat.toDigits 10 port ++ rest).takeWhile Address.isDigit =
      Nat.toDigits 10 port := by
    rw [List.takeWhile_append_of_pos hdigits]
    rcases hrest with rfl | ⟨path, rfl⟩ <;> simp [Address.isDigit]
  have hdrop : (Nat.toDigits 10 port ++ rest).dropWhile Address.isDigit = rest := by
    rw [List.dropWhile_append_of_pos hdigits]
    rcases hrest with rfl | ⟨path, rfl⟩ <;> simp [Address.isDigit]
  unfold readPort
  simp only [htake, hdrop, Address.numberIn?_toDigits, if_neg (Nat.not_lt.2 hport)]
  rcases hrest with rfl | ⟨path, rfl⟩
  · exact ⟨_, rfl⟩
  · exact ⟨_, rfl⟩

end Url

structure Authority.WellFormed (a : Authority) : Prop where
  username : ∀ c ∈ a.username.toList, Url.isInert c = true
  password : ∀ c ∈ a.password.toList, Url.isInert c = true
  host : ∃ host, a.host = some host ∧ Host.Delimited host.render
  port : ∀ port, a.port = some port → port ≤ Url.maxPort

/--
Whether an authority is written so that its parts are found again. Without a host it has no
other parts either.
-/
structure Authority.Legible (a : Authority) : Prop where
  username : ∀ c ∈ a.username.toList, Url.isInert c = true
  password : ∀ c ∈ a.password.toList, Url.isInert c = true
  host : ∀ host, a.host = some host → Host.SetOff host.render
  alone : a.host = none → a.username = "" ∧ a.password = "" ∧ a.port = none
  port : ∀ port, a.port = some port → port ≤ Url.maxPort

namespace Authority

variable {a : Authority}

theorem renderHost_of_host {host : Host} (h : a.host = some host) :
    a.renderHost = host.render := by
  rw [renderHost, h]

theorem renderHost_of_none (h : a.host = none) : a.renderHost = [] := by
  rw [renderHost, h]

theorem WellFormed.legible (ha : a.WellFormed) : a.Legible := by
  obtain ⟨host, hhost, hdelimited⟩ := ha.host
  refine ⟨ha.username, ha.password, fun name hname => ?_, fun hnone => ?_, ha.port⟩
  · rw [hhost] at hname
    rw [← Option.some.inj hname]
    exact hdelimited.setOff
  · rw [hhost] at hnone
    contradiction

theorem renderPort_eq (a : Authority) :
    a.renderPort = [] ∨
      ∃ port, a.port = some port ∧ a.renderPort = ':' :: Nat.toDigits 10 port := by
  unfold renderPort
  cases hport : a.port with
  | none => exact .inl rfl
  | some port =>
      refine .inr ⟨port, rfl, ?_⟩
      simp only [Nat.toString_eq_ofList_toDigits, String.toList_ofList]

namespace Legible

variable (ha : a.Legible)

include ha

theorem setOff : Host.SetOff a.renderHost := by
  cases hhost : a.host with
  | none =>
      rw [renderHost_of_none hhost]
      exact Host.setOff_nil
  | some host =>
      rw [renderHost_of_host hhost]
      exact ha.host host hhost

theorem isInert_location : ∀ c ∈ a.renderHost ++ a.renderPort, Url.isInert c = true := by
  intro c hc
  rcases List.mem_append.1 hc with hc | hc
  · exact ha.setOff.inert c hc
  · rcases a.renderPort_eq with hport | ⟨port, _, hport⟩
    · simp [hport] at hc
    · rw [hport, List.mem_cons] at hc
      rcases hc with rfl | hc
      · decide
      · exact Url.isInert_of_not_forbidden
          (Host.isForbidden_of_mem_toDigits (by decide) (by decide) hc)

theorem not_isSlash_location (kind : SchemeKind) :
    ∀ c ∈ a.renderHost ++ a.renderPort, Url.isSlash kind c = false :=
  fun c hc => Url.not_isSlash_of_isInert (ha.isInert_location c hc) kind

theorem renderCredentials_eq :
    a.renderCredentials = [] ∨
      ∃ text, a.renderCredentials = text ++ ['@'] ∧ ∀ c ∈ text, Url.isInert c = true := by
  unfold renderCredentials
  split
  · exact .inl rfl
  · split
    · exact .inr ⟨_, rfl, ha.username⟩
    · refine .inr ⟨a.username.toList ++ ':' :: a.password.toList, by simp, ?_⟩
      intro c hc
      simp only [List.mem_append, List.mem_cons] at hc
      rcases hc with hc | rfl | hc
      · exact ha.username c hc
      · decide
      · exact ha.password c hc

theorem mem_render {c : Char} (hc : c ∈ a.render) : Url.isInert c = true ∨ c = '@' := by
  rw [render, List.append_assoc, List.mem_append] at hc
  rcases hc with hc | hc
  · rcases ha.renderCredentials_eq with hnone | ⟨text, htext, hinert⟩
    · simp [hnone] at hc
    · rw [htext, List.mem_append, List.mem_singleton] at hc
      exact hc.imp_left (hinert c)
  · exact .inl (ha.isInert_location c hc)

theorem not_isSlash (kind : SchemeKind) : ∀ c ∈ a.render, Url.isSlash kind c = false := by
  intro c hc
  rcases ha.mem_render hc with hinert | rfl
  · exact Url.not_isSlash_of_isInert hinert kind
  · rfl

theorem render_of_none (hnone : a.host = none) : a.render = [] := by
  obtain ⟨husername, hpassword, hport⟩ := ha.alone hnone
  simp [render, renderCredentials, renderHost, renderPort, husername, hpassword, hport, hnone]

end Legible

end Authority

namespace Url

theorem ne_at_of_isInert {c : Char} (h : isInert c = true) : (c != '@') = true := by
  rw [bne_iff_ne]
  rintro rfl
  revert h
  decide

theorem splitCredentials_of_isInert {s : List Char} (h : ∀ c ∈ s, isInert c = true) :
    splitCredentials s = none := by
  have hreverse : ∀ c ∈ s.reverse, (c != '@') = true :=
    fun c hc => ne_at_of_isInert (h c (List.mem_reverse.1 hc))
  have hnone : s.reverse.dropWhile (· != '@') = [] := by
    rw [← List.append_nil s.reverse, List.dropWhile_append_of_pos hreverse]
    rfl
  unfold splitCredentials
  simp only [hnone]

theorem splitCredentials_append {s : List Char} (h : ∀ c ∈ s, isInert c = true)
    (text : List Char) : splitCredentials (text ++ '@' :: s) = some (text, s) := by
  have hreverse : ∀ c ∈ s.reverse, (c != '@') = true :=
    fun c hc => ne_at_of_isInert (h c (List.mem_reverse.1 hc))
  have hsplit : (text ++ '@' :: s).reverse = s.reverse ++ '@' :: text.reverse := by simp
  unfold splitCredentials
  simp only [hsplit, List.dropWhile_append_of_pos hreverse, List.takeWhile_append_of_pos hreverse]
  simp

/-! ## Reading an authority again -/

section Written

variable {a : Authority} (ha : a.Legible) {rest : List Char} (hrest : StartsPath rest)

include ha hrest

theorem readAuthority_of_none {scheme : String} (continues : Bool) (hnone : a.host = none)
    (hspecial : (SchemeKind.ofScheme scheme).isSpecial = false) :
    readAuthority scheme continues (a.render ++ rest) = .ok (({} : Authority), rest) := by
  have hsplit : splitCredentials [] = none := rfl
  have hopaque : Host.parseOpaque [] = .ok (.name "") := rfl
  have hslashes : ∀ c ∈ ([] : List Char), isSlash (SchemeKind.ofScheme scheme) c = false := by
    simp
  have htake := takeWhile_before_path hslashes hrest
  rw [List.nil_append] at htake
  rw [ha.render_of_none hnone, List.nil_append]
  unfold readAuthority readHostPort
  simp only [htake, hsplit, hostLength, List.take_zero, List.drop_zero, hspecial, hopaque]
  rcases hrest with rfl | ⟨path, rfl⟩
  · rfl
  · rfl

variable {host read : Host} (hhost : a.host = some host)

include hhost

theorem readHostPort_written {scheme : String} (hne : host.render ≠ [])
    (hread : parseHostFor (SchemeKind.ofScheme scheme) host.render = .ok read) :
    ∃ port, readHostPort scheme (a.renderHost ++ a.renderPort ++ rest) =
      .ok (some read, port, rest) := by
  have hnonempty : host.render.isEmpty = false := List.isEmpty_eq_false_iff.2 hne
  have hlength : hostLength false (a.renderHost ++ a.renderPort) = a.renderHost.length := by
    apply ha.setOff.ends
    rcases a.renderPort_eq with hport | ⟨port, _, hport⟩
    · exact .inl hport
    · exact .inr ⟨_, hport⟩
  have htake : (a.renderHost ++ a.renderPort).take a.renderHost.length = host.render := by
    rw [List.take_left, Authority.renderHost_of_host hhost]
  have hdrop : (a.renderHost ++ a.renderPort ++ rest).drop a.renderHost.length =
      a.renderPort ++ rest := by
    rw [List.append_assoc, List.drop_left]
  unfold parseHostFor at hread
  unfold readHostPort
  simp only [takeWhile_before_path (ha.not_isSlash_location _) hrest, hlength, htake, hdrop]
  cases hspecial : (SchemeKind.ofScheme scheme).isSpecial
  all_goals
    rw [hspecial] at hread
    simp only [Bool.false_eq_true, if_false, if_true] at hread
    simp only [Bool.false_eq_true, if_false, if_true, hnonempty, hread, Except.map]
    rcases a.renderPort_eq with hport | ⟨port, hsome, hport⟩
    · rw [hport, List.nil_append]
      rcases hrest with rfl | ⟨path, rfl⟩
      · exact ⟨none, rfl⟩
      · exact ⟨none, rfl⟩
    · obtain ⟨port', hreadPort⟩ := readPort_toDigits (ha.port port hsome) hrest scheme
      refine ⟨port', ?_⟩
      rw [hport, List.cons_append]
      simp only [hreadPort]

/-- An authority is read from what is written for it, as long as its host is. -/
theorem exists_readAuthority {scheme : String} (continues : Bool) (hne : host.render ≠ [])
    (hread : parseHostFor (SchemeKind.ofScheme scheme) host.render = .ok read) :
    ∃ b, readAuthority scheme continues (a.render ++ rest) = .ok (b, rest) ∧
      b.host = some read := by
  obtain ⟨port, hlocation⟩ := readHostPort_written ha hrest hhost hne hread
  have hinert := ha.isInert_location
  unfold readAuthority
  simp only [takeWhile_before_path (ha.not_isSlash _) hrest,
    dropWhile_before_path (ha.not_isSlash _) hrest]
  rcases ha.renderCredentials_eq with hnone | ⟨text, htext, _⟩
  · have hrender : a.render = a.renderHost ++ a.renderPort := by
      rw [Authority.render, hnone, List.nil_append]
    rw [hrender, splitCredentials_of_isInert hinert]
    simp only [hlocation]
    exact ⟨_, rfl, rfl⟩
  · have hrender : a.render = text ++ '@' :: (a.renderHost ++ a.renderPort) := by
      rw [Authority.render, htext]
      simp
    rw [hrender, splitCredentials_append hinert]
    simp only [hlocation]
    obtain ⟨c, location, hcons⟩ :
        ∃ c location, a.renderHost ++ a.renderPort = c :: location := by
      rw [Authority.renderHost_of_host hhost]
      cases hhostText : host.render with
      | nil => exact absurd hhostText hne
      | cons c text => exact ⟨c, _, rfl⟩
    rw [hcons]
    cases text with
    | nil => exact ⟨_, rfl, rfl⟩
    | cons d text => exact ⟨_, rfl, rfl⟩

end Written

/-! ## What is read as an authority -/

theorem le_maxPort_of_readPort {scheme : String} {s rest : List Char} {read : Option Nat}
    (h : readPort scheme s = .ok (read, rest)) : ∀ port, read = some port → port ≤ maxPort := by
  unfold readPort at h
  dsimp only at h
  split at h
  · simp at h
  · rename_i n _
    split at h
    · simp at h
    · rename_i hle
      have hread : read = none ∨ read = some n := by
        split at h
        · obtain ⟨rfl, _⟩ := Prod.mk.inj (Except.ok.inj h)
          exact (Decidable.em _).imp (if_pos ·) (if_neg ·)
        · split at h
          · obtain ⟨rfl, _⟩ := Prod.mk.inj (Except.ok.inj h)
            exact (Decidable.em _).imp (if_pos ·) (if_neg ·)
          · simp at h
      intro port hport
      rcases hread with hread | hread
      · simp [hread] at hport
      · rw [hread] at hport
        obtain rfl := Option.some.inj hport
        exact Nat.le_of_not_lt hle

/-- What is read as a host and a port. Only where hosts may be missing is there none. -/
theorem of_readHostPort {scheme : String} {s rest : List Char} {host : Option Host}
    {port : Option Nat} (h : readHostPort scheme s = .ok (host, port, rest)) :
    (∀ name, host = some name → ∃ text, text ≠ [] ∧
      parseHostFor (SchemeKind.ofScheme scheme) text = .ok name) ∧
    (host = none → (SchemeKind.ofScheme scheme).isSpecial = false ∧ port = none) ∧
    ∀ n, port = some n → n ≤ maxPort := by
  unfold readHostPort at h
  dsimp only at h
  generalize htext : (s.takeWhile fun c => !isSlash (SchemeKind.ofScheme scheme) c).take
    (hostLength false (s.takeWhile fun c => !isSlash (SchemeKind.ofScheme scheme) c)) = text at h
  generalize hbehind : s.drop
    (hostLength false (s.takeWhile fun c => !isSlash (SchemeKind.ofScheme scheme) c)) = behind at h
  have hne : ¬ text.isEmpty = true → text ≠ [] := fun hempty hnil => hempty (by rw [hnil]; rfl)
  split at h
  · simp at h
  · rename_i found hfound
    have hname : (∀ name, found = some name → ∃ text, text ≠ [] ∧
          parseHostFor (SchemeKind.ofScheme scheme) text = .ok name) ∧
        (found = none → (SchemeKind.ofScheme scheme).isSpecial = false ∧
          ∀ digits, behind ≠ ':' :: digits) := by
      unfold parseHostFor
      split at hfound
      · rename_i hspecial
        split at hfound
        · simp at hfound
        · rename_i hempty
          unfold Except.map at hfound
          split at hfound
          · simp at hfound
          · rename_i read hparse
            obtain rfl := Except.ok.inj hfound
            refine ⟨fun name hsome => ⟨text, hne hempty, ?_⟩, by simp⟩
            rw [if_pos hspecial, ← Option.some.inj hsome]
            exact hparse
      · rename_i hspecial
        split at hfound
        · simp at hfound
        · rename_i read hparse
          split at hfound
          · split at hfound
            · simp at hfound
            · rename_i hcolon
              obtain rfl := Except.ok.inj hfound
              exact ⟨by simp, fun _ => ⟨by simpa using hspecial, hcolon⟩⟩
          · rename_i hempty
            obtain rfl := Except.ok.inj hfound
            refine ⟨fun name hsome => ⟨text, hne hempty, ?_⟩, by simp⟩
            rw [if_neg hspecial, ← Option.some.inj hsome]
            exact hparse
    obtain ⟨hsome, hnone⟩ := hname
    split at h
    · rename_i digits
      split at h
      · simp at h
      · rename_i hport
        obtain ⟨rfl, rfl, rfl⟩ := by simpa using h
        exact ⟨hsome, fun hfound => absurd rfl ((hnone hfound).2 digits),
          le_maxPort_of_readPort hport⟩
    · obtain ⟨rfl, rfl, rfl⟩ := by simpa using h
      exact ⟨hsome, fun hfound => ⟨(hnone hfound).1, rfl⟩, by simp⟩

theorem ok_of_ite_error {α ε : Type} {p : Prop} [Decidable p] {e : ε} {result : Except ε α}
    {a : α} (h : (if p then .error e else result) = .ok a) : ¬ p ∧ result = .ok a := by
  split at h
  · contradiction
  · rename_i hp
    exact ⟨hp, h⟩

theorem isInert_readCredentials (text : List Char) :
    (∀ c ∈ (readCredentials text).1.toList, isInert c = true) ∧
      ∀ c ∈ (readCredentials text).2.toList, isInert c = true := by
  constructor
  · intro c hc
    rw [readCredentials, String.toList_ofList] at hc
    exact isInert_of_mem_escaped hc
  · intro c hc
    rw [readCredentials, String.toList_ofList] at hc
    exact isInert_of_mem_escaped hc

theorem empty_of_not_refused {host : Option Host} {username password : String}
    (h : ¬ (host.isNone && !(username.isEmpty && password.isEmpty)) = true) (hnone : host = none) :
    username = "" ∧ password = "" := by
  simpa [hnone] using h

theorem of_readAuthority {scheme : String} {continues : Bool} {s rest : List Char}
    {a : Authority} (h : readAuthority scheme continues s = .ok (a, rest)) :
    (∀ c ∈ a.username.toList, isInert c = true) ∧ (∀ c ∈ a.password.toList, isInert c = true) ∧
      (a.host = none → a.username = "" ∧ a.password = "") ∧
      ∃ location, readHostPort scheme location = .ok (a.host, a.port, rest) := by
  unfold readAuthority at h
  dsimp only at h
  obtain ⟨_, h⟩ := ok_of_ite_error h
  cases hcredentials : splitCredentials
      (s.takeWhile fun c => !isSlash (SchemeKind.ofScheme scheme) c) with
  | none =>
      simp only [hcredentials] at h
      split at h
      · simp at h
      · rename_i hlocation
        obtain ⟨hrefused, h⟩ := ok_of_ite_error h
        obtain ⟨rfl, rfl⟩ := Prod.mk.inj (Except.ok.inj h)
        exact ⟨by simp, by simp, empty_of_not_refused hrefused, _, hlocation⟩
  | some parts =>
      obtain ⟨text, location⟩ := parts
      simp only [hcredentials] at h
      split at h
      · simp at h
      · rename_i hlocation
        obtain ⟨hrefused, h⟩ := ok_of_ite_error h
        obtain ⟨rfl, rfl⟩ := Prod.mk.inj (Except.ok.inj h)
        obtain ⟨husername, hpassword⟩ := isInert_readCredentials text
        exact ⟨husername, hpassword, empty_of_not_refused hrefused, _, hlocation⟩

theorem wellFormed_of_readAuthority {scheme : String} {continues : Bool} {s rest : List Char}
    {a : Authority} (hspecial : (SchemeKind.ofScheme scheme).isSpecial = true)
    (h : readAuthority scheme continues s = .ok (a, rest)) : a.WellFormed := by
  obtain ⟨husername, hpassword, _, location, hlocation⟩ := of_readAuthority h
  obtain ⟨hsome, hnone, hport⟩ := of_readHostPort hlocation
  refine ⟨husername, hpassword, ?_, hport⟩
  cases hhost : a.host with
  | none =>
      rw [(hnone hhost).1] at hspecial
      contradiction
  | some host =>
      obtain ⟨text, _, hread⟩ := hsome host hhost
      rw [parseHostFor, if_pos hspecial] at hread
      exact ⟨host, rfl, Host.delimited_of_parse hread⟩

/-- Whatever the kind of scheme, an authority that is read is legible, and its host not empty. -/
theorem legible_of_readAuthority {scheme : String} {continues : Bool} {s rest : List Char}
    {a : Authority} (h : readAuthority scheme continues s = .ok (a, rest)) :
    a.Legible ∧ (∀ host, a.host = some host → host.render ≠ []) ∧
      (a.host = none → (SchemeKind.ofScheme scheme).isSpecial = false) := by
  obtain ⟨husername, hpassword, halone, location, hlocation⟩ := of_readAuthority h
  obtain ⟨hsome, hnone, hport⟩ := of_readHostPort hlocation
  have hhosts : ∀ host, a.host = some host → Host.SetOff host.render ∧ host.render ≠ [] := by
    intro host hhost
    obtain ⟨text, hne, hread⟩ := hsome host hhost
    exact Host.setOff_of_parseHostFor hne hread
  refine ⟨⟨husername, hpassword, fun host hhost => (hhosts host hhost).1, fun hhost => ?_, hport⟩,
    fun host hhost => (hhosts host hhost).2, fun hhost => (hnone hhost).1⟩
  exact ⟨(halone hhost).1, (halone hhost).2, (hnone hhost).2⟩

end Url

end LinkHygiene
