import Mathlib.Data.List.Basic
import EntryTree.Command.Shell.Pattern

/-!
# What patterns of shells match

A text matches a pattern if it can be cut into pieces of which each is accepted by its part of the
pattern. A pattern all of whose characters are quoted matches itself and nothing else; and what is
trimmed off a text is the shortest or longest end of it that matches, if one does.

The induction of the matcher is on the parts. An asterisk accepts any piece, and the suffixes that
the matcher goes on with are what is left behind all of them.
-/

namespace EntryTree.Command

namespace ShellPattern

/-- The pieces of texts that a part of a pattern accepts. -/
def Item.Accepts : Item → List Char → Prop
  | .literal c, piece => piece = [c]
  | .anyOne, piece => ∃ c, piece = [c]
  | .anyMany, _ => True
  | .member accepted, piece => ∃ c, accepted c = true ∧ piece = [c]

/-- A text consists of pieces that the parts of a pattern accept. -/
inductive Spells : List Item → List Char → Prop
  | nil : Spells [] []
  | cons {item : Item} {items : List Item} {piece text : List Char} (accepts : item.Accepts piece)
      (rest : Spells items text) : Spells (item :: items) (piece ++ text)

theorem spells_nil_iff {text : List Char} : Spells [] text ↔ text = [] := by
  constructor
  · rintro ⟨⟩
    rfl
  · rintro rfl
    exact .nil

theorem spells_cons_iff {item : Item} {items : List Item} {text : List Char} :
    Spells (item :: items) text ↔
      ∃ piece rest, text = piece ++ rest ∧ item.Accepts piece ∧ Spells items rest := by
  constructor
  · rintro (_ | ⟨accepts, rest⟩)
    exact ⟨_, _, rfl, accepts, rest⟩
  · rintro ⟨piece, rest, rfl, accepts, spells⟩
    exact .cons accepts spells

theorem mem_suffixes {text rest : List Char} :
    rest ∈ matchItems.suffixes text ↔ ∃ piece, text = piece ++ rest := by
  induction text with
  | nil =>
      rw [matchItems.suffixes, List.mem_singleton]
      constructor
      · rintro rfl
        exact ⟨[], rfl⟩
      · rintro ⟨piece, whole⟩
        exact (List.append_eq_nil_iff.mp whole.symm).2
  | cons c text ih =>
      rw [matchItems.suffixes, List.mem_cons, ih]
      constructor
      · rintro (rfl | ⟨piece, rfl⟩)
        · exact ⟨[], rfl⟩
        · exact ⟨c :: piece, rfl⟩
      · rintro ⟨piece, whole⟩
        rcases List.cons_eq_append_iff.mp whole with ⟨rfl, rest⟩ | ⟨piece, rfl, rest⟩
        · exact .inl rest
        · exact .inr ⟨piece, rest⟩

/-- A part that accepts single characters takes the first one. -/
theorem spells_cons_of_single {item : Item} {items : List Item} (accepted : Char → Prop)
    (single : ∀ piece, item.Accepts piece ↔ ∃ c, accepted c ∧ piece = [c]) {text : List Char} :
    Spells (item :: items) text ↔ ∃ c rest, text = c :: rest ∧ accepted c ∧ Spells items rest := by
  rw [spells_cons_iff]
  constructor
  · rintro ⟨piece, rest, rfl, accepts, spells⟩
    rcases (single piece).mp accepts with ⟨c, holds, rfl⟩
    exact ⟨c, rest, rfl, holds, spells⟩
  · rintro ⟨c, rest, rfl, holds, spells⟩
    exact ⟨[c], rest, rfl, (single [c]).mpr ⟨c, holds, rfl⟩, spells⟩

theorem matchItems_iff {items : List Item} {text : List Char} :
    matchItems items text = true ↔ Spells items text := by
  induction items generalizing text with
  | nil => rw [spells_nil_iff, matchItems, List.isEmpty_iff]
  | cons item items ih =>
      cases item with
      | anyMany =>
          rw [spells_cons_iff, matchItems, List.any_eq_true]
          constructor
          · rintro ⟨rest, member, matched⟩
            rcases mem_suffixes.mp member with ⟨piece, whole⟩
            exact ⟨piece, rest, whole, trivial, ih.mp matched⟩
          · rintro ⟨piece, rest, whole, _, spells⟩
            exact ⟨rest, mem_suffixes.mpr ⟨piece, whole⟩, ih.mpr spells⟩
      | anyOne =>
          rw [spells_cons_of_single (fun _ => True) (by simp [Item.Accepts])]
          cases text <;> simp [matchItems, ih]
      | literal c =>
          rw [spells_cons_of_single (c = ·) (by simp [Item.Accepts])]
          cases text <;> simp only [matchItems, Bool.and_eq_true, beq_iff_eq, ih] <;> grind
      | member accepted =>
          rw [spells_cons_of_single (accepted · = true) (by simp [Item.Accepts])]
          cases text <;> simp [matchItems, ih]

/-- Quoted characters are meant literally. -/
theorem items_of_quoted {pattern : List PatternCharacter}
    (quoted : ∀ c ∈ pattern, c.active = false) {steps : Nat} (enough : pattern.length ≤ steps) :
    items steps pattern = pattern.map (.literal ·.character) := by
  induction pattern generalizing steps with
  | nil => cases steps <;> rfl
  | cons c pattern ih =>
      rcases List.forall_mem_cons.mp quoted with ⟨first, others⟩
      cases steps with
      | zero => cases enough
      | succ steps => simp [items, first, ih others (Nat.le_of_succ_le_succ enough)]

theorem spells_literals_iff {characters text : List Char} :
    Spells (characters.map .literal) text ↔ text = characters := by
  induction characters generalizing text with
  | nil => exact spells_nil_iff
  | cons c characters ih =>
      rw [List.map_cons, spells_cons_of_single (c = ·) (by simp [Item.Accepts])]
      constructor
      · rintro ⟨_, rest, rfl, rfl, spells⟩
        rw [ih.mp spells]
      · rintro rfl
        exact ⟨c, characters, rfl, rfl, ih.mpr rfl⟩

end ShellPattern

open ShellPattern

theorem matchesPattern_iff {pattern : List PatternCharacter} {text : String} :
    matchesPattern pattern text = true ↔
      Spells (items pattern.length pattern) text.toList :=
  matchItems_iff

/-- A pattern of quoted characters matches the text of its characters only. -/
theorem matchesPattern_of_quoted {pattern : List PatternCharacter}
    (quoted : ∀ c ∈ pattern, c.active = false) {text : String} :
    matchesPattern pattern text = true ↔
      text = String.ofList (pattern.map PatternCharacter.character) := by
  have literals : pattern.map (fun c => Item.literal c.character) =
      (pattern.map PatternCharacter.character).map .literal := by
    rw [List.map_map]
    rfl
  rw [matchesPattern_iff, items_of_quoted quoted (Nat.le_refl _), literals, spells_literals_iff]
  constructor
  · intro same
    rw [← same, String.ofList_toList]
  · rintro rfl
    rw [String.toList_ofList]

/-- A text falls into what is taken off one of its ends and what is left of it. -/
def Falls (atEnd : Bool) (whole taken rest : List Char) : Prop :=
  if atEnd then whole = rest ++ taken else whole = taken ++ rest

/-- The end of a text that has a length, and what is left of the text. -/
def endOf (atEnd : Bool) (whole : List Char) (length : Nat) : List Char × List Char :=
  if atEnd then (whole.drop (whole.length - length), whole.take (whole.length - length))
  else (whole.take length, whole.drop length)

theorem falls_iff {atEnd : Bool} {whole taken rest : List Char} :
    Falls atEnd whole taken rest ↔
      taken.length ≤ whole.length ∧ endOf atEnd whole taken.length = (taken, rest) := by
  cases atEnd with
  | true =>
      simp only [Falls, endOf, if_true, Prod.mk.injEq]
      constructor
      · rintro rfl
        simp
      · rintro ⟨_, behind, front⟩
        calc
          whole = whole.take (whole.length - taken.length) ++
              whole.drop (whole.length - taken.length) := (List.take_append_drop ..).symm
          _ = rest ++ taken := by rw [front, behind]
  | false =>
      simp only [Falls, endOf, Bool.false_eq_true, if_false, Prod.mk.injEq]
      constructor
      · rintro rfl
        simp
      · rintro ⟨_, front, behind⟩
        calc
          whole = whole.take taken.length ++ whole.drop taken.length :=
            (List.take_append_drop ..).symm
          _ = taken ++ rest := by rw [front, behind]

theorem length_endOf (atEnd : Bool) {whole : List Char} {length : Nat}
    (fits : length ≤ whole.length) : (endOf atEnd whole length).1.length = length := by
  cases atEnd with
  | true => simp [endOf, Nat.sub_sub_self fits]
  | false => exact List.length_take_of_le fits

/-- The first of several numbers that passes a test, where the numbers come in an order. -/
theorem find?_first {lengths : List Nat} {test : Nat → Bool} {order : Nat → Nat → Prop}
    (ordered : lengths.Pairwise order) {length : Nat} (found : lengths.find? test = some length) :
    test length = true ∧ length ∈ lengths ∧
      ∀ other ∈ lengths, test other = true → other = length ∨ order length other := by
  rcases List.find?_eq_some_iff_append.mp found with ⟨passes, front, behind, whole, fail⟩
  subst whole
  refine ⟨passes, by simp, ?_⟩
  intro other member passesToo
  rcases List.mem_append.mp member with before | member
  · have fails := fail other before
    simp [passesToo] at fails
  · rcases List.mem_cons.mp member with same | after
    · exact .inl same
    · have later := (List.pairwise_append.mp ordered).2.1
      exact .inr (List.rel_of_pairwise_cons later after)

/-- The lengths of ends in the order in which they are tried. -/
def tried (longest : Bool) (count : Nat) : List Nat :=
  if longest then (List.range (count + 1)).reverse else List.range (count + 1)

theorem mem_tried {longest : Bool} {count length : Nat} :
    length ∈ tried longest count ↔ length ≤ count := by
  cases longest <;> simp [tried, Nat.lt_succ_iff]

theorem tried_ordered (longest : Bool) (count : Nat) :
    (tried longest count).Pairwise fun first second =>
      if longest then second ≤ first else first ≤ second := by
  cases longest with
  | true =>
      rw [tried, if_pos rfl, List.pairwise_reverse]
      exact List.pairwise_lt_range.imp Nat.le_of_lt
  | false =>
      rw [tried, if_neg Bool.false_ne_true]
      exact List.pairwise_lt_range.imp Nat.le_of_lt

theorem trimPattern_eq (pattern : List PatternCharacter) (atEnd longest : Bool) (text : String) :
    trimPattern pattern atEnd longest text =
      match (tried longest text.toList.length).find? fun length =>
        matchItems (items pattern.length pattern) (endOf atEnd text.toList length).1 with
      | some length => String.ofList (endOf atEnd text.toList length).2
      | none => text := by
  cases atEnd <;> rfl

/-- What is trimmed off a text matches the pattern, and nothing shorter, or nothing longer, at that
end does; a text of which no such end matches is left as it is. -/
theorem trimPattern_spec (pattern : List PatternCharacter) (atEnd longest : Bool)
    (text : String) :
    (∃ taken rest, trimPattern pattern atEnd longest text = String.ofList rest ∧
      Falls atEnd text.toList taken rest ∧ Spells (items pattern.length pattern) taken ∧
      ∀ other left, Falls atEnd text.toList other left →
        Spells (items pattern.length pattern) other →
          if longest then other.length ≤ taken.length else taken.length ≤ other.length) ∨
    trimPattern pattern atEnd longest text = text ∧
      ∀ taken rest, Falls atEnd text.toList taken rest →
        ¬Spells (items pattern.length pattern) taken := by
  rw [trimPattern_eq]
  split
  · next length found =>
      left
      rcases find?_first (tried_ordered longest _) found with ⟨passes, member, first⟩
      have fits := mem_tried.mp member
      have size := length_endOf atEnd fits
      refine ⟨_, _, rfl, falls_iff.mpr ⟨by rwa [size], by rw [size]⟩, matchItems_iff.mp passes, ?_⟩
      intro other left falls spells
      rcases falls_iff.mp falls with ⟨fitsToo, same⟩
      have passesToo : matchItems (items pattern.length pattern)
          (endOf atEnd text.toList other.length).1 = true := by
        rw [same]
        exact matchItems_iff.mpr spells
      rw [size]
      rcases first other.length (mem_tried.mpr fitsToo) passesToo with equal | later
      · split <;> exact Nat.le_of_eq (by rw [equal])
      · exact later
  · next missed =>
      refine .inr ⟨rfl, fun taken rest falls spells => ?_⟩
      rcases falls_iff.mp falls with ⟨fits, same⟩
      have fails := List.find?_eq_none.mp missed taken.length (mem_tried.mpr fits)
      rw [same] at fails
      exact fails (matchItems_iff.mpr spells)

end EntryTree.Command
