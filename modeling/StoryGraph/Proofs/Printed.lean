import Mathlib
import StoryGraph.Proofs.NumeralGrammar

/-!
# Printed values are read

The text of a value is read as the tree of the value, in which each number is what its numeral is
read as. The tree stands for a value only where there is room for it.

Main definition: `Tree.printed`. Main statements: `Json.parse?_print`, `Tree.depth_le_of_printed`.
-/

namespace StoryGraph

namespace Tree

mutual

def printed : Value → Tree
  | .null => .null
  | .bool b => .bool b
  | .number n => .number n.reading
  | .text s => .text (some s)
  | .list items => .list (printedAll items)
  | .record fields => .record (printedFields fields)

def printedAll : List Value → List Tree
  | [] => []
  | item :: rest => printed item :: printedAll rest

def printedFields : List (String × Value) → List (Option String × Tree)
  | [] => []
  | (name, value) :: rest => (some name, printed value) :: printedFields rest

end

theorem printedAll_eq_map (items : List Value) : printedAll items = items.map printed := by
  induction items with
  | nil => rfl
  | cons item rest ih => rw [printedAll, ih, List.map_cons]

end Tree

namespace Json

/-! ## Lists and records -/

def laterParts (closing : List Char) : List String → List Char
  | [] => closing
  | part :: rest => ',' :: (part.toList ++ laterParts closing rest)

def firstPart (closing : List Char) : List String → List Char
  | [] => closing
  | part :: rest => part.toList ++ laterParts closing rest

theorem toList_bracketed (opening closing : String) (parts : List String) :
    (bracketed opening closing parts).toList =
      opening.toList ++ firstPart closing.toList parts := by
  have hlater : ∀ (part : String) (rest : List String),
      (",".intercalate (part :: rest)).toList ++ closing.toList =
        part.toList ++ laterParts closing.toList rest := by
    intro part rest
    induction rest generalizing part with
    | nil =>
        rw [String.toList_intercalate]
        simp [laterParts]
    | cons next rest ih =>
        have h := ih next
        rw [String.toList_intercalate] at h ⊢
        rw [laterParts, ← h]
        simp [List.intercalate]
  unfold bracketed
  rw [String.toList_append, String.toList_append, List.append_assoc]
  cases parts with
  | nil => rfl
  | cons part rest => rw [hlater, firstPart]

mutual

/-- **The text of a value is made of the tokens of its tree.** -/
theorem spells_print : ∀ value : Value, Spells (print value).toList (Tree.printed value).tokens
  | .null => spells_null
  | .bool b => spells_bool b
  | .number n => spells_number (Numeral.read?_numberText n)
  | .text s => (completes_quote s).spells
  | .list items => by
      rw [print, toList_bracketed, Tree.printed, Tree.tokens]
      exact (continues_punctuation (c := '[') rfl (completes_firstItem items)).completes.spells
  | .record fields => by
      rw [print, toList_bracketed, Tree.printed, Tree.tokens]
      exact (continues_punctuation (c := '\x7b') rfl
        (completes_firstMember fields)).completes.spells

theorem completes_firstItem : ∀ items : List Value,
    Completes (firstPart "]".toList (printItems items)) (Tree.firstItem (Tree.printedAll items))
  | [] => (continues_punctuation rfl completes_nil).completes
  | item :: rest => (spells_print item).completes (continues_laterItems rest)

theorem continues_laterItems : ∀ items : List Value,
    Continues (laterParts "]".toList (printItems items)) (Tree.laterItems (Tree.printedAll items))
  | [] => continues_punctuation rfl completes_nil
  | item :: rest =>
      continues_punctuation rfl ((spells_print item).completes (continues_laterItems rest))

theorem completes_firstMember : ∀ fields : List (String × Value),
    Completes (firstPart "\x7d".toList (printFields fields))
      (Tree.firstMember (Tree.printedFields fields))
  | [] => (continues_punctuation rfl completes_nil).completes
  | (name, value) :: rest => by
      have hmember := (spells_print value).completes (continues_laterMembers rest)
      have hwhole := (completes_quote name).spells.completes
        (continues_punctuation (c := ':') rfl hmember)
      rw [printFields, firstPart, String.toList_append, String.toList_append, List.append_assoc,
        List.append_assoc]
      exact hwhole

theorem continues_laterMembers : ∀ fields : List (String × Value),
    Continues (laterParts "\x7d".toList (printFields fields))
      (Tree.laterMembers (Tree.printedFields fields))
  | [] => continues_punctuation rfl completes_nil
  | (name, value) :: rest => by
      have hmember := (spells_print value).completes (continues_laterMembers rest)
      have hwhole := (completes_quote name).spells.completes
        (continues_punctuation (c := ':') rfl hmember)
      rw [printFields, laterParts, String.toList_append, String.toList_append, List.append_assoc,
        List.append_assoc]
      exact continues_punctuation rfl hwhole

end

/-- **A printed value is read as its tree.** -/
theorem parse?_print (value : Value) : parse? (print value) = some (Tree.printed value) := by
  obtain ⟨lexer, hrun, hsettles⟩ := spells_print value []
  -- The end of the text settles a word or a numeral like a punctuation mark.
  have htokens : tokens? (print value) = some (Tree.printed value).tokens := by
    unfold tokens?
    rw [hrun, Option.bind_eq_bind, Option.bind_some, hsettles.settle, List.append_nil]
    show some (Tree.printed value).tokens.reverse.reverse = _
    rw [List.reverse_reverse]
  unfold parse?
  rw [htokens]
  show (do
    let last ← (Tree.printed value).tokens.foldlM Builder.step? ⟨[], .value, none⟩
    last.result) = _
  rw [foldlM_tokens _ _ (.inl rfl)]
  rfl

theorem printItems_map {α : Type} (write : α → Value) (items : List α) :
    printItems (items.map write) = items.map fun item => print (write item) := by
  induction items with
  | nil => rfl
  | cons item rest ih => rw [List.map_cons, printItems, ih, List.map_cons]

end Json

/-! ## Room -/

namespace Tree

mutual

/-- **What is read was no deeper than there is room.** -/
theorem depth_le_of_printed : ∀ (value : Value) {room : Nat} {read : Value},
    (printed value).toValue? room = some read → value.depth ≤ room
  | .null, _, _, _ => Nat.zero_le _
  | .bool _, _, _, _ => Nat.zero_le _
  | .number _, _, _, _ => Nat.zero_le _
  | .text _, _, _, _ => Nat.zero_le _
  | .list items, room, read, h => by
      rw [printed, toValue?] at h
      split at h
      · exact nomatch h
      · obtain ⟨values, hvalues, -⟩ := Option.map_eq_some_iff.mp h
        have hdepths := depthOfAll_le_of_printedAll items hvalues
        rw [Value.depth]
        omega
  | .record fields, room, read, h => by
      rw [printed, toValue?] at h
      split at h
      · exact nomatch h
      · obtain ⟨values, hvalues, -⟩ := Option.map_eq_some_iff.mp h
        have hdepths := depthOfFields_le_of_printedFields fields hvalues
        rw [Value.depth]
        omega

theorem depthOfAll_le_of_printedAll : ∀ (items : List Value) {room : Nat} {read : List Value},
    toValues? room (printedAll items) = some read → Value.depthOfAll items ≤ room
  | [], _, _, _ => Nat.zero_le _
  | item :: rest, room, read, h => by
      rw [printedAll, toValues?] at h
      obtain ⟨value, hvalue, h⟩ := Option.bind_eq_some_iff.mp h
      obtain ⟨values, hvalues, -⟩ := Option.bind_eq_some_iff.mp h
      exact Nat.max_le.mpr ⟨depth_le_of_printed item hvalue,
        depthOfAll_le_of_printedAll rest hvalues⟩

theorem depthOfFields_le_of_printedFields : ∀ (fields : List (String × Value)) {room : Nat}
    {before read : Fields}, toFields? room before (printedFields fields) = some read →
      Value.depthOfFields fields ≤ room
  | [], _, _, _, _ => Nat.zero_le _
  | (name, value) :: rest, room, before, read, h => by
      rw [printedFields, toFields?, Option.bind_eq_bind, Option.bind_some] at h
      obtain ⟨value', hvalue, hrest⟩ := Option.bind_eq_some_iff.mp h
      exact Nat.max_le.mpr ⟨depth_le_of_printed value hvalue,
        depthOfFields_le_of_printedFields rest hrest⟩

end

theorem toValue?_printed_of_lt {value : Value} {room : Nat} (h : room < value.depth) :
    (printed value).toValue? room = none := by
  rw [Option.eq_none_iff_forall_ne_some]
  exact fun read hread => absurd (depth_le_of_printed value hread) (Nat.not_le.mpr h)

end Tree

end StoryGraph
