import LinkHygiene.Fetch.Client
import LinkHygiene.Proofs.Text.Utf8Stream

/-!
# Reading the beginning of a page

A body comes in pieces that are offered to a receiver one after the other, and the transfer
breaks off at the first piece of which less is accepted than was offered. The receiver counts
in machine words. Whatever the pieces are, what has been read is settled by the bytes alone:
it is as many of them as the limit admits. This holds before the first piece and every piece
keeps it, and once the limit is reached no later byte matters.
-/

namespace LinkHygiene

/-! ## What has been read -/

namespace PageRead

variable {limit : Nat} {r : PageRead} {bytes : List UInt8}

/-- A page is read up to some bytes, whatever pieces they came in. -/
structure HasTaken (limit : Nat) (r : PageRead) (bytes : List UInt8) : Prop where
  stream : r.stream.HasRead (bytes.take limit)
  received : r.received = min limit bytes.length
  truncated : r.truncated = decide (limit ≤ bytes.length)

theorem HasTaken.empty (hlimit : 0 < limit) : HasTaken limit {} [] where
  stream := by
    rw [List.take_nil]
    exact Utf8.Stream.HasRead.empty
  received := (Nat.min_zero limit).symm
  truncated := by
    rw [List.length_nil, decide_eq_false (by omega)]

theorem HasTaken.push (h : HasTaken limit r bytes) (piece : List UInt8) :
    HasTaken limit (r.push limit piece) (bytes ++ piece) := by
  have hroom : limit - r.received = limit - bytes.length := by
    rw [h.received]
    omega
  have hreceived : (r.push limit piece).received = min limit (bytes ++ piece).length := by
    show r.received + (piece.take (limit - r.received)).length = _
    rw [List.length_take, List.length_append, hroom, h.received]
    omega
  refine ⟨?_, hreceived, ?_⟩
  · show (r.stream.push (piece.take (limit - r.received))).HasRead _
    rw [List.take_append, hroom]
    exact h.stream.push _
  · show decide (limit ≤ (r.push limit piece).received) = _
    rw [hreceived, decide_eq_decide]
    omega

/-- Once the limit is reached, later bytes are left out. -/
theorem HasTaken.append (h : HasTaken limit r bytes) (hfull : limit ≤ bytes.length)
    (later : List UInt8) : HasTaken limit r (bytes ++ later) := by
  refine ⟨?_, ?_, ?_⟩
  · rw [List.take_append_of_le_length hfull]
    exact h.stream
  · rw [h.received, List.length_append]
    omega
  · rw [h.truncated, List.length_append, decide_eq_decide]
    omega

theorem HasTaken.text_eq (h : HasTaken limit r bytes) :
    r.text = String.ofList (Utf8.decodeLossy (bytes.take limit)) := by
  rw [text, h.stream.finish_eq]

end PageRead

/-! ## The transfer -/

namespace Transfer

/--
Offers a body piece by piece to a receiver, which says how many bytes it accepts. With the
receiver's last state comes whether the transfer broke off.
-/
def deliver {σ : Type} (write : σ → List UInt8 → σ × Nat) :
    σ → List (List UInt8) → σ × Bool
  | s, [] => (s, false)
  | s, piece :: rest =>
      let (s, accepted) := write s piece
      if accepted < piece.length then (s, true) else deliver write s rest

def saturatingSub {width : Nat} (a b : BitVec width) : BitVec width :=
  if a ≤ b then BitVec.zero width else a - b

theorem toNat_saturatingSub {width : Nat} (a b : BitVec width) :
    (saturatingSub a b).toNat = a.toNat - b.toNat := by
  by_cases hle : a ≤ b
  · have hnat : a.toNat ≤ b.toNat := hle
    rw [saturatingSub, if_pos hle]
    show 0 = a.toNat - b.toNat
    omega
  · have hnat : b.toNat ≤ a.toNat := Nat.le_of_not_ge hle
    rw [saturatingSub, if_neg hle, BitVec.toNat_sub_of_le hnat]

/-- A receiver's state, with its counter in a machine word. -/
structure Intake (width : Nat) where
  /-- The pieces that the decoder was given. -/
  handed : List (List UInt8) := []
  received : BitVec width := BitVec.zero width
  truncated : Bool := false

namespace Intake

variable {width : Nat} {limit : BitVec width} {s : Intake width} {r : PageRead}
  {bytes : List UInt8}

def taken (limit : BitVec width) (s : Intake width) (piece : List UInt8) : List UInt8 :=
  piece.take (saturatingSub limit s.received).toNat

def push (limit : BitVec width) (s : Intake width) (piece : List UInt8) : Intake width :=
  let received := s.received + BitVec.ofNat width (s.taken limit piece).length
  ⟨s.handed ++ [s.taken limit piece], received, s.truncated || decide (limit ≤ received)⟩

/-- Takes what there is room for, and refuses the piece if the limit is reached then. -/
def write (limit : BitVec width) (s : Intake width) (piece : List UInt8) :
    Intake width × Nat :=
  let after := s.push limit piece
  (after, if limit ≤ after.received then 0 else piece.length)

/--
The receiver is where a bounded reading of some bytes is. As the two counters agree, the
machine word has not wrapped around.
-/
structure Mirrors (limit : BitVec width) (s : Intake width) (r : PageRead)
    (bytes : List UInt8) : Prop where
  read : r.HasTaken limit.toNat bytes
  stream : r.stream = Utf8.Stream.ofPieces s.handed
  handed : s.handed.flatten = bytes.take limit.toNat
  received : s.received.toNat = r.received
  truncated : s.truncated = r.truncated

theorem Mirrors.empty (hlimit : 0 < limit.toNat) : Mirrors limit {} {} [] where
  read := PageRead.HasTaken.empty hlimit
  stream := rfl
  handed := List.take_nil.symm
  received := rfl
  truncated := rfl

theorem Mirrors.taken_eq (h : Mirrors limit s r bytes) (piece : List UInt8) :
    s.taken limit piece = piece.take (limit.toNat - r.received) := by
  rw [taken, toNat_saturatingSub, h.received]

/-- No more is added to the counter than there is room for, so it does not wrap around. -/
theorem Mirrors.toNat_received_push (h : Mirrors limit s r bytes) (piece : List UInt8) :
    (s.push limit piece).received.toNat = (r.push limit.toNat piece).received := by
  have hreceived := (h.read.push piece).received
  have hlimit := limit.isLt
  have hsum : (r.push limit.toNat piece).received =
      s.received.toNat + (s.taken limit piece).length := by
    rw [h.received, h.taken_eq]
    rfl
  show (s.received + BitVec.ofNat width (s.taken limit piece).length).toNat = _
  rw [BitVec.toNat_add, BitVec.toNat_ofNat, Nat.add_mod_mod, ← hsum, Nat.mod_eq_of_lt]
  omega

theorem Mirrors.push (h : Mirrors limit s r bytes) (piece : List UInt8) :
    Mirrors limit (s.push limit piece) (r.push limit.toNat piece) (bytes ++ piece) := by
  have hread := h.read.push piece
  refine ⟨hread, ?_, ?_, h.toNat_received_push piece, ?_⟩
  · show r.stream.push (piece.take (limit.toNat - r.received)) =
      (s.handed ++ [s.taken limit piece]).foldl Utf8.Stream.push .empty
    rw [List.foldl_append, h.taken_eq, h.stream]
    rfl
  · show (s.handed ++ [s.taken limit piece]).flatten = _
    have hroom : limit.toNat - r.received = limit.toNat - bytes.length := by
      rw [h.read.received]
      omega
    rw [List.flatten_append, List.flatten_singleton, h.handed, h.taken_eq, List.take_append, hroom]
  · show (s.truncated || decide (limit.toNat ≤ (s.push limit piece).received.toNat)) = _
    rw [h.toNat_received_push, hread.truncated, hread.received, h.truncated, h.read.truncated,
      ← Bool.decide_or, decide_eq_decide, List.length_append]
    omega

theorem Mirrors.accepted_lt_iff (h : Mirrors limit s r bytes) (hopen : s.truncated = false)
    (piece : List UInt8) :
    (s.write limit piece).2 < piece.length ↔ (s.push limit piece).truncated = true := by
  have hroom : bytes.length < limit.toNat := by
    rw [h.truncated, h.read.truncated, decide_eq_false_iff_not] at hopen
    omega
  have hafter := h.push piece
  have hreached : limit ≤ (s.push limit piece).received ↔
      limit.toNat ≤ (bytes ++ piece).length := by
    show limit.toNat ≤ (s.push limit piece).received.toNat ↔ _
    rw [hafter.received, hafter.read.received]
    omega
  rw [hafter.truncated, hafter.read.truncated, decide_eq_true_iff, ← hreached]
  show (if limit ≤ (s.push limit piece).received then 0 else piece.length) < piece.length ↔ _
  by_cases hfull : limit ≤ (s.push limit piece).received
  · have hlong := hreached.1 hfull
    rw [List.length_append] at hlong
    rw [if_pos hfull]
    exact iff_of_true (by omega) hfull
  · rw [if_neg hfull]
    exact iff_of_false (Nat.lt_irrefl _) hfull

theorem Mirrors.append (h : Mirrors limit s r bytes) (hfull : s.truncated = true)
    (later : List UInt8) : Mirrors limit s r (bytes ++ later) := by
  have hlength : limit.toNat ≤ bytes.length := by
    rwa [h.truncated, h.read.truncated, decide_eq_true_iff] at hfull
  refine ⟨h.read.append hlength later, h.stream, ?_, h.received, h.truncated⟩
  rw [List.take_append_of_le_length hlength]
  exact h.handed

theorem Mirrors.deliver (h : Mirrors limit s r bytes) (hopen : s.truncated = false)
    (body : List (List UInt8)) :
    let delivered := Transfer.deliver (write limit) s body
    Mirrors limit delivered.1 (PageRead.readAll limit.toNat r body) (bytes ++ body.flatten) ∧
      delivered.2 = delivered.1.truncated := by
  induction body generalizing s r bytes with
  | nil =>
      rw [List.flatten_nil, List.append_nil]
      exact ⟨h, hopen.symm⟩
  | cons piece rest ih =>
      have hafter := h.push piece
      have haccepted := h.accepted_lt_iff hopen piece
      show let delivered := if (s.write limit piece).2 < piece.length then
            (s.push limit piece, true) else Transfer.deliver (write limit) (s.push limit piece) rest
        Mirrors limit delivered.1
            (if (r.push limit.toNat piece).truncated = true then r.push limit.toNat piece
              else PageRead.readAll limit.toNat (r.push limit.toNat piece) rest)
            (bytes ++ (piece ++ rest.flatten)) ∧
          delivered.2 = delivered.1.truncated
      rw [← List.append_assoc, ← hafter.truncated]
      by_cases hfull : (s.push limit piece).truncated = true
      · rw [if_pos (haccepted.2 hfull), if_pos hfull]
        exact ⟨hafter.append hfull rest.flatten, hfull.symm⟩
      · rw [if_neg (fun hless => hfull (haccepted.1 hless)), if_neg hfull]
        exact ih hafter (Bool.eq_false_iff.2 hfull)

end Intake

/-- What a request makes of its transfer, which has failed if it broke off before the limit. -/
def toPage {width : Nat} (url finalUrl : String) (delivered : Intake width × Bool) :
    Except FetchError Page :=
  if delivered.2 && !delivered.1.truncated then .error (.failed .get url)
  else .ok ⟨finalUrl, String.ofList (Utf8.Stream.ofPieces delivered.1.handed).finish,
    delivered.1.truncated⟩

/-- A transfer that breaks off only at the limit has not failed. -/
theorem toPage_eq_ok {width : Nat} {limit : BitVec width} {delivered : Intake width × Bool}
    {r : PageRead} {bytes : List UInt8} (h : delivered.1.Mirrors limit r bytes)
    (hbroken : delivered.2 = delivered.1.truncated) (url finalUrl : String) :
    toPage url finalUrl delivered = .ok ⟨finalUrl, r.text, r.truncated⟩ := by
  unfold toPage
  rw [hbroken, Bool.and_not_self, PageRead.text, h.stream, h.truncated]
  rfl

end Transfer

/-! ## The page -/

namespace Transport

open Transfer (Intake)

variable {width : Nat} {limit : BitVec width} {t : Transport} {url : String}
  {response : Response}

/--
A page is the beginning of the body, decoded as if it had come at once, however the body was
cut into pieces; it counts as truncated if the body reaches the limit. It is what a receiver
with a counter of any width makes of the transfer. At any time the decoder was given as much
of what has arrived as the limit admits, and the counter is exactly the length of that.
-/
theorem page_eq_beginning (hlimit : 0 < limit.toNat) (hurl : checkHttp url = .ok ())
    (hanswer : t ⟨.get, url, true⟩ = some response) :
    let bytes := response.body.flatten
    t.page limit.toNat url =
        .ok ⟨response.finalUrl, String.ofList (Utf8.decodeLossy (bytes.take limit.toNat)),
          decide (limit.toNat ≤ bytes.length)⟩ ∧
      t.page limit.toNat url =
        Transfer.toPage url response.finalUrl
          (Transfer.deliver (Intake.write limit) {} response.body) ∧
      ∀ arrived, arrived <+: response.body →
        let s := (Transfer.deliver (Intake.write limit) {} arrived).1
        s.handed.flatten = arrived.flatten.take limit.toNat ∧
          s.received.toNat = s.handed.flatten.length ∧
          s.received ≤ limit := by
  intro bytes
  have hmirrors (body : List (List UInt8)) :=
    (Intake.Mirrors.empty hlimit).deliver rfl body
  have hpage : t.page limit.toNat url =
      .ok ⟨response.finalUrl, (PageRead.ofBody limit.toNat response.body).text,
        (PageRead.ofBody limit.toNat response.body).truncated⟩ := by
    unfold page send
    rw [hurl, hanswer]
    rfl
  obtain ⟨hbody, hbroken⟩ := hmirrors response.body
  have hread : (PageRead.ofBody limit.toNat response.body).HasTaken limit.toNat bytes :=
    hbody.read
  refine ⟨?_, ?_, fun arrived _ => ?_⟩
  · rw [hpage, hread.text_eq, hread.truncated]
  · rw [hpage]
    exact (Transfer.toPage_eq_ok hbody hbroken url response.finalUrl).symm
  · intro s
    obtain ⟨hmoment, -⟩ := hmirrors arrived
    have hhanded : s.handed.flatten = arrived.flatten.take limit.toNat := hmoment.handed
    have hreceived : s.received.toNat = min limit.toNat arrived.flatten.length :=
      hmoment.received.trans hmoment.read.received
    refine ⟨hhanded, ?_, ?_⟩
    · rw [hreceived, hhanded, List.length_take]
    · show s.received.toNat ≤ limit.toNat
      omega

/-- Of an E-acute, cut in two, and a euro sign four bytes are read. -/
theorem page_eq_beginning_split :
    let t : Transport := fun _ =>
      some ⟨200, [], [[0xC3], [0xA9, 0xE2, 0x82, 0xAC], [0x21]], "http://a.example/"⟩
    0 < (4#64).toNat ∧
      checkHttp "http://a.example/" = .ok () ∧
      t.page 4 "http://a.example/" = .ok ⟨"http://a.example/", "é\uFFFD", true⟩ ∧
      (Transfer.deliver (Intake.write 4#64) {} [[0xC3], [0xA9, 0xE2, 0x82, 0xAC]]).1.received.toNat
        = 4 := by
  intro t
  have hlimit : 0 < (4#64).toNat := by decide
  have hurl : checkHttp "http://a.example/" = .ok () := by rfl
  obtain ⟨hpage, -, hmoment⟩ := page_eq_beginning hlimit hurl (t := t) rfl
  obtain ⟨hhanded, hreceived, -⟩ := hmoment [[0xC3], [0xA9, 0xE2, 0x82, 0xAC]] ⟨[[0x21]], rfl⟩
  refine ⟨hlimit, hurl, hpage, ?_⟩
  rw [hreceived, hhanded]
  rfl

end Transport

end LinkHygiene
