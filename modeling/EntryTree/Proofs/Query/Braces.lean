import EntryTree.Proofs.Query.Age
import EntryTree.Proofs.Query.Composition

/-!
# Braces that span tokens

The span between two braces may come in any number of tokens, which are joined by single spaces
before the span is read. So what matters is the text between the braces and not how it was split:
the tokens mean the same as the one token with the joined text, and what comes after the token that
closes is left as it is.
-/

namespace EntryTree.TimeTest

open Text

variable {bound : Bound} {reference : Instant} {index : Nat} {text : List Char}
  {piece first next : String} {pieces more tail : List String}

/-- The pieces with a sign and an opening brace in front. -/
def opened (bound : Bound) (pieces : List String) : List String :=
  pieces.modifyHead fun piece => String.ofList [bound.sign, '\x7b'] ++ piece

/-- The pieces with a closing brace behind. -/
def closed : List String → List String
  | [] => []
  | [piece] => [piece ++ "\x7d"]
  | piece :: next :: more => piece :: closed (next :: more)

example : opened .lessThan (closed ["1h", "", "30m"]) = ["-\x7b1h", "", "30m\x7d"] := by decide

/-- The closing brace is not among the characters of a piece. -/
def Unclosed (pieces : List String) : Prop :=
  ∀ piece ∈ pieces, '\x7d' ∉ piece.toList

theorem Unclosed.joined (unclosed : Unclosed pieces) : Unclosed [" ".intercalate pieces] := by
  suffices free : '\x7d' ∉ (" ".intercalate pieces).toList by simpa [Unclosed] using free
  induction pieces with
  | nil => simp
  | cons first more ih =>
      rw [Unclosed, List.forall_mem_cons] at unclosed
      cases more with
      | nil => simpa using unclosed.1
      | cons next more =>
          have others := ih unclosed.2
          rw [String.intercalate_cons_cons, String.toList_append, String.toList_append]
          simp only [List.mem_append, unclosed.1, others, or_false, false_or]
          decide

/-! ## Collecting the pieces -/

theorem braced_of_last (index : Nat) (tail : List String) (unclosed : '\x7d' ∉ text) :
    braced index (text ++ ['\x7d']) tail = .ok (text, tail) := by
  have before := bne_of_not_mem unclosed
  unfold braced
  simp [List.dropWhile_append_of_pos before, List.takeWhile_append_of_pos before]

theorem braced_of_next (unclosed : '\x7d' ∉ text) :
    braced index text (next :: more) =
      (braced (index + 1) next.toList more).map fun (rest, left) =>
        (text ++ ' ' :: rest, left) := by
  rw [braced, List.dropWhile_eq_nil_iff.mpr (bne_of_not_mem unclosed)]

theorem braced_of_open (unclosed : '\x7d' ∉ text) (others : Unclosed more) :
    braced index text more = .error (.malformed "expected a closing brace") := by
  induction more generalizing index text with
  | nil => rw [braced, List.dropWhile_eq_nil_iff.mpr (bne_of_not_mem unclosed)]
  | cons next more ih =>
      rw [Unclosed, List.forall_mem_cons] at others
      rw [braced_of_next unclosed, ih others.1 others.2]
      rfl

/-- The text between the braces is the pieces joined by spaces, and the tokens behind are left. -/
theorem braced_closed (unclosed : Unclosed (first :: more)) :
    ∃ token rest, closed (first :: more) = token :: rest ∧
      ∀ index tail, braced index token.toList (rest ++ tail) =
        .ok ((" ".intercalate (first :: more)).toList, tail) := by
  induction more generalizing first with
  | nil =>
      refine ⟨first ++ "\x7d", [], rfl, ?_⟩
      intro index tail
      have free : '\x7d' ∉ first.toList := unclosed first List.mem_cons_self
      simpa using braced_of_last index tail free
  | cons next more ih =>
      rw [Unclosed, List.forall_mem_cons] at unclosed
      rcases ih unclosed.2 with ⟨token, rest, split, collected⟩
      refine ⟨first, token :: rest, by rw [closed, split], ?_⟩
      intro index tail
      rw [List.cons_append, braced_of_next unclosed.1, collected, String.intercalate_cons_cons]
      simp [Except.map]

/-! ## Reading -/

theorem read_opened :
    read reference (opened bound (piece :: more)) =
      readFuture bound reference piece.toList more := by
  cases bound <;> simp [opened, read, Bound.sign, readSigned]

theorem read_closed (present : pieces ≠ []) (unclosed : Unclosed pieces) :
    read reference (opened bound (closed pieces) ++ tail) =
      (ofEnclosed bound reference (" ".intercalate pieces).toList).map (·, tail) := by
  cases pieces with
  | nil => contradiction
  | cons first more =>
      rcases braced_closed unclosed with ⟨token, rest, split, collected⟩
      have whole : opened bound (closed (first :: more)) ++ tail =
          opened bound (token :: (rest ++ tail)) := by
        rw [split]
        rfl
      rw [whole, read_opened, readFuture_eq, collected]

/-- A braced test means the same however it is split into tokens, and leaves what comes after it.
Without a closing brace it is malformed, whatever the tokens are. -/
theorem read_pieces (present : pieces ≠ []) (unclosed : Unclosed pieces) (bound : Bound)
    (reference : Instant) :
    (∀ tail,
      (∃ test, read reference (opened bound (closed pieces) ++ tail) = .ok (test, tail) ∧
        read reference (opened bound (closed [" ".intercalate pieces]) ++ tail) =
          .ok (test, tail)) ∨
      ∃ error, read reference (opened bound (closed pieces) ++ tail) = .error error ∧
        read reference (opened bound (closed [" ".intercalate pieces]) ++ tail) = .error error) ∧
    read reference (opened bound pieces) = .error (.malformed "expected a closing brace") := by
  constructor
  · intro tail
    rw [read_closed present unclosed, read_closed (List.cons_ne_nil _ _) unclosed.joined,
      String.intercalate_singleton]
    cases ofEnclosed bound reference (" ".intercalate pieces).toList with
    | error error => exact .inr ⟨error, rfl, rfl⟩
    | ok test => exact .inl ⟨test, rfl, rfl⟩
  · cases pieces with
    | nil => contradiction
    | cons first more =>
        rw [Unclosed, List.forall_mem_cons] at unclosed
        rw [read_opened, readFuture_eq, braced_of_open unclosed.1 unclosed.2]
        rfl

/-- Two components with an empty piece between them, and another primary behind. -/
theorem read_pieces_components :
    (∃ test, read ⟨0, 0⟩ ["-\x7b1h", "", "30m\x7d", "-size"] = .ok (test, ["-size"]) ∧
      read ⟨0, 0⟩ ["-\x7b1h  30m\x7d", "-size"] = .ok (test, ["-size"])) ∧
    read ⟨0, 0⟩ ["-\x7b1h", "", "30m"] = .error (.malformed "expected a closing brace") := by
  have unclosed : Unclosed ["1h", "", "30m"] := by
    unfold Unclosed
    decide
  have given := read_pieces (List.cons_ne_nil _ _) unclosed .lessThan ⟨0, 0⟩
  refine ⟨?_, given.2⟩
  rcases given.1 ["-size"] with accepted | ⟨error, refused, _⟩
  · exact accepted
  · have readable : (read ⟨0, 0⟩ (opened .lessThan (closed ["1h", "", "30m"]) ++ ["-size"])).isOk =
        true := by decide +kernel
    rw [refused] at readable
    contradiction

end EntryTree.TimeTest
