import Mathlib.Tactic.SplitIfs
import StoryGraph.Json.Parser
import StoryGraph.Json.Printer

/-!
# Texts, tokens and trees

The tokens of a tree, in the order in which they are written, are arranged to that tree again. Of a
text the lexer makes tokens from left to right; a word or a numeral at its end is only a token once
something follows, so there are three kinds of texts: those that leave the lexer between two tokens,
those that are settled by a punctuation mark, and those that begin with one.

Main definitions: `Tree.tokens`, `Json.Completes`, `Json.Spells`, `Json.Continues`.
-/

namespace StoryGraph

open Json (Token Builder Frame)

/-! ## Tokens of a tree -/

namespace Tree

mutual

def tokens : Tree → List Token
  | .null => [.null]
  | .bool b => [.bool b]
  | .number n => [.number n]
  | .text s => [.text s]
  | .list items => .openList :: firstItem items
  | .record members => .openRecord :: firstMember members

def firstItem : List Tree → List Token
  | [] => [.closeList]
  | item :: rest => tokens item ++ laterItems rest

def laterItems : List Tree → List Token
  | [] => [.closeList]
  | item :: rest => .comma :: (tokens item ++ laterItems rest)

def firstMember : List (Option String × Tree) → List Token
  | [] => [.closeRecord]
  | (name, member) :: rest => .text name :: .colon :: (tokens member ++ laterMembers rest)

def laterMembers : List (Option String × Tree) → List Token
  | [] => [.closeRecord]
  | (name, member) :: rest =>
    .comma :: .text name :: .colon :: (tokens member ++ laterMembers rest)

end

end Tree

namespace Json

mutual

/-- **The tokens of a tree are arranged to the tree**, wherever a value may stand. -/
theorem foldlM_tokens : ∀ (tree : Tree) (builder : Builder),
    builder.expects = .value ∨ builder.expects = .valueOrClose →
      tree.tokens.foldlM Builder.step? builder = some (Builder.place builder tree)
  | .null, ⟨_, _, _⟩, h => by rcases h with rfl | rfl <;> rfl
  | .bool _, ⟨_, _, _⟩, h => by rcases h with rfl | rfl <;> rfl
  | .number _, ⟨_, _, _⟩, h => by rcases h with rfl | rfl <;> rfl
  | .text _, ⟨_, _, _⟩, h => by rcases h with rfl | rfl <;> rfl
  | .list items, ⟨frames, _, result⟩, h => by
      have hitems := foldlM_firstItem items frames
      rw [Tree.tokens, List.foldlM_cons]
      rcases h with rfl | rfl <;> exact hitems
  | .record members, ⟨frames, _, result⟩, h => by
      have hmembers := foldlM_firstMember members frames
      rw [Tree.tokens, List.foldlM_cons]
      rcases h with rfl | rfl <;> exact hmembers

theorem foldlM_firstItem : ∀ (items : List Tree) (frames : List Frame),
    (Tree.firstItem items).foldlM Builder.step? ⟨.list [] :: frames, .valueOrClose, none⟩ =
      some (Builder.place ⟨frames, .nothing, none⟩ (.list items))
  | [], _ => rfl
  | item :: rest, frames => by
      rw [Tree.firstItem, List.foldlM_append, foldlM_tokens item _ (.inr rfl)]
      exact foldlM_laterItems rest [item] frames

theorem foldlM_laterItems : ∀ (items reversed : List Tree) (frames : List Frame),
    (Tree.laterItems items).foldlM Builder.step? ⟨.list reversed :: frames, .commaOrClose, none⟩ =
      some (Builder.place ⟨frames, .nothing, none⟩ (.list (reversed.reverse ++ items)))
  | [], reversed, frames => by
      rw [List.append_nil]
      rfl
  | item :: rest, reversed, frames => by
      rw [Tree.laterItems, List.foldlM_cons]
      show (item.tokens ++ Tree.laterItems rest).foldlM Builder.step?
        ⟨.list reversed :: frames, .value, none⟩ = _
      rw [List.foldlM_append, foldlM_tokens item _ (.inl rfl)]
      -- The frame holds the items so far, last one first.
      have hrest := foldlM_laterItems rest (item :: reversed) frames
      rw [List.reverse_cons, List.append_assoc] at hrest
      exact hrest

theorem foldlM_firstMember : ∀ (members : List (Option String × Tree)) (frames : List Frame),
    (Tree.firstMember members).foldlM Builder.step?
        ⟨.record [] none :: frames, .nameOrClose, none⟩ =
      some (Builder.place ⟨frames, .nothing, none⟩ (.record members))
  | [], _ => rfl
  | (name, member) :: rest, frames => by
      rw [Tree.firstMember, List.foldlM_cons]
      show (member.tokens ++ Tree.laterMembers rest).foldlM Builder.step?
        ⟨.record [] name :: frames, .value, none⟩ = _
      rw [List.foldlM_append, foldlM_tokens member _ (.inl rfl)]
      exact foldlM_laterMembers rest [(name, member)] frames

theorem foldlM_laterMembers : ∀ (members reversed : List (Option String × Tree))
    (frames : List Frame),
    (Tree.laterMembers members).foldlM Builder.step?
        ⟨.record reversed none :: frames, .commaOrClose, none⟩ =
      some (Builder.place ⟨frames, .nothing, none⟩ (.record (reversed.reverse ++ members)))
  | [], reversed, frames => by
      rw [List.append_nil]
      rfl
  | (name, member) :: rest, reversed, frames => by
      rw [Tree.laterMembers, List.foldlM_cons]
      show (member.tokens ++ Tree.laterMembers rest).foldlM Builder.step?
        ⟨.record reversed name :: frames, .value, none⟩ = _
      rw [List.foldlM_append, foldlM_tokens member _ (.inl rfl)]
      have hrest := foldlM_laterMembers rest ((name, member) :: reversed) frames
      rw [List.reverse_cons, List.append_assoc] at hrest
      exact hrest

end

/-! ## Texts and their tokens -/

def punctuation? : Char → Option Token
  | '[' => some .openList
  | ']' => some .closeList
  | '\x7b' => some .openRecord
  | '\x7d' => some .closeRecord
  | ',' => some .comma
  | ':' => some .colon
  | _ => none

/-- A lexer whose last token is complete as soon as a punctuation mark follows. -/
structure Lexer.Settles (lexer : Lexer) (found : List Token) : Prop where
  settle : lexer.settle? = some ⟨.between, found⟩
  next : ∀ c token, punctuation? c = some token →
    lexer.step? c = some ⟨.between, token :: found⟩

def Completes (cs : List Char) (tokens : List Token) : Prop :=
  ∀ found, cs.foldlM Lexer.step? ⟨.between, found⟩ = some ⟨.between, tokens.reverse ++ found⟩

/-- A text of which the lexer makes some tokens as soon as a punctuation mark follows. -/
def Spells (cs : List Char) (tokens : List Token) : Prop :=
  ∀ found, ∃ lexer, cs.foldlM Lexer.step? ⟨.between, found⟩ = some lexer ∧
    lexer.Settles (tokens.reverse ++ found)

/-- A text that settles the token before it and of which the lexer makes some tokens. -/
def Continues (cs : List Char) (tokens : List Token) : Prop :=
  ∀ lexer found, Lexer.Settles lexer found →
    cs.foldlM Lexer.step? lexer = some ⟨.between, tokens.reverse ++ found⟩

variable {c : Char} {cs ds : List Char} {token : Token} {tokens others found : List Token}

theorem punctuation?_eq_some (h : punctuation? c = some token) :
    (c.isLower = false ∧ isNumeralChar c = false) ∧
      ∀ found, Lexer.begin? ⟨.between, found⟩ c = some ⟨.between, token :: found⟩ := by
  unfold punctuation? at h
  split at h <;> cases h <;> exact ⟨by decide, fun _ => rfl⟩

theorem settles_between (found : List Token) : Lexer.Settles ⟨.between, found⟩ found where
  settle := rfl
  next _ _ h := (punctuation?_eq_some h).2 found

theorem settles_word {reversed : List Char} (found : List Token)
    (h : wordToken? reversed = some token) :
    Lexer.Settles ⟨.word reversed, found⟩ (token :: found) := by
  have hsettle : Lexer.settle? ⟨.word reversed, found⟩ = some ⟨.between, token :: found⟩ := by
    show (wordToken? reversed).map _ = _
    rw [h, Option.map_some]
  refine ⟨hsettle, fun c next hnext => ?_⟩
  obtain ⟨⟨hlower, -⟩, hbegin⟩ := punctuation?_eq_some hnext
  show (if c.isLower then _ else (Lexer.settle? _).bind _) = _
  rw [if_neg (ne_true_of_eq_false hlower), hsettle, Option.bind_some, hbegin]

theorem settles_numeral {reversed : List Char} {n : Option Number} (found : List Token)
    (h : Numeral.read? reversed.reverse = some n) :
    Lexer.Settles ⟨.numeral reversed, found⟩ (.number n :: found) := by
  have hsettle : Lexer.settle? ⟨.numeral reversed, found⟩ =
      some ⟨.between, .number n :: found⟩ := by
    show (Numeral.read? reversed.reverse).map _ = _
    rw [h, Option.map_some]
  refine ⟨hsettle, fun c next hnext => ?_⟩
  obtain ⟨⟨-, hnumeral⟩, hbegin⟩ := punctuation?_eq_some hnext
  show (if isNumeralChar c then _ else (Lexer.settle? _).bind _) = _
  rw [if_neg (ne_true_of_eq_false hnumeral), hsettle, Option.bind_some, hbegin]

theorem Completes.spells (h : Completes cs tokens) : Spells cs tokens :=
  fun found => ⟨_, h found, settles_between _⟩

theorem Spells.completes (h : Spells cs tokens) (hd : Continues ds others) :
    Completes (cs ++ ds) (tokens ++ others) := by
  intro found
  obtain ⟨lexer, hrun, hsettles⟩ := h found
  rw [List.foldlM_append, hrun, List.reverse_append, List.append_assoc]
  exact hd lexer _ hsettles

theorem continues_punctuation (h : punctuation? c = some token) (hd : Completes ds others) :
    Continues (c :: ds) (token :: others) := by
  intro lexer found hsettles
  rw [List.foldlM_cons, hsettles.next c token h, List.reverse_cons, List.append_assoc]
  exact hd (token :: found)

theorem Continues.completes (h : Continues cs tokens) : Completes cs tokens :=
  fun found => h _ found (settles_between found)

theorem completes_nil : Completes [] [] := fun _ => rfl

/-! ## Words -/

theorem spells_null : Spells "null".toList [.null] :=
  fun found => ⟨⟨.word ['l', 'l', 'u', 'n'], found⟩, rfl, settles_word found rfl⟩

theorem spells_bool (b : Bool) : Spells (if b then "true" else "false").toList [.bool b] := by
  cases b with
  | true => exact fun found => ⟨⟨.word ['e', 'u', 'r', 't'], found⟩, rfl, settles_word found rfl⟩
  | false =>
      exact fun found => ⟨⟨.word ['e', 's', 'l', 'a', 'f'], found⟩, rfl, settles_word found rfl⟩

/-! ## Strings -/

theorem hexValue?_digitChar : ∀ d < 16, hexValue? (Nat.digitChar d) = some d := by decide

theorem foldlM_hexPair {n : Nat} (h : n < 32) (soFar : StringSoFar) (found : List Token) :
    (hexPair n).toList.foldlM Lexer.step? ⟨.hex soFar 0 2, found⟩ =
      some ⟨.string (soFar.pushUnit n), found⟩ := by
  have hhigh : Lexer.step? ⟨.hex soFar 0 2, found⟩ (Nat.digitChar (n / 16)) =
      some ⟨.hex soFar (n / 16) 3, found⟩ := by
    show (hexValue? _).map _ = _
    rw [hexValue?_digitChar (n / 16) (by omega), Option.map_some, Nat.mul_zero, Nat.zero_add]
    rfl
  have hlow : Lexer.step? ⟨.hex soFar (n / 16) 3, found⟩ (Nat.digitChar (n % 16)) =
      some ⟨.string (soFar.pushUnit n), found⟩ := by
    show (hexValue? _).map _ = _
    rw [hexValue?_digitChar (n % 16) (by omega), Option.map_some, Nat.div_add_mod]
    rfl
  unfold hexPair
  rw [String.toList_ofList, List.foldlM_cons, hhigh]
  show List.foldlM Lexer.step? _ [Nat.digitChar (n % 16)] = _
  rw [List.foldlM_cons, hlow]
  rfl

theorem foldlM_escapeChar (c : Char) (reversed : List Char) (found : List Token) :
    (escapeChar c).toList.foldlM Lexer.step? ⟨.string ⟨reversed, none, true⟩, found⟩ =
      some ⟨.string ⟨c :: reversed, none, true⟩, found⟩ := by
  have hc := Char.ofNat_toNat c
  unfold escapeChar
  split_ifs with hquote hslash hline htab hreturn hback hfeed hcontrol
  · rw [hquote]
    rfl
  · rw [hslash]
    rfl
  · rw [hline]
    rfl
  · rw [htab]
    rfl
  · rw [hreturn]
    rfl
  · rw [← hc, hback]
    rfl
  · rw [← hc, hfeed]
    rfl
  · rw [String.toList_append, List.foldlM_append]
    show (hexPair c.toNat).toList.foldlM Lexer.step? ⟨.hex ⟨reversed, none, true⟩ 0 2, found⟩ = _
    rw [foldlM_hexPair hcontrol]
    -- A control character is spelled by its number, which is no half of a surrogate pair.
    unfold StringSoFar.pushUnit
    dsimp only
    have hsmall : ∀ low high : Nat, 32 ≤ low →
        ¬ (decide (low ≤ c.toNat) && decide (c.toNat ≤ high)) = true := by
      intro low high hlow h
      rw [Bool.and_eq_true, decide_eq_true_eq] at h
      omega
    rw [if_neg (hsmall _ _ (by decide)), if_neg (hsmall _ _ (by decide)), hc]
    rfl
  · rw [String.toList_singleton, List.foldlM_cons]
    show Option.bind (if c = '"' then _ else if c = '\\' then _ else
      if c.toNat < 32 then _ else _) _ = _
    rw [if_neg hquote, if_neg hslash, if_neg hcontrol]
    rfl

theorem toList_quote (s : String) : (quote s).toList =
    '"' :: (s.toList.flatMap fun c => (escapeChar c).toList) ++ ['"'] := by
  have hfold : ∀ (cs : List Char) (out : String),
      (cs.foldl (fun out c => out ++ escapeChar c) out).toList =
        out.toList ++ cs.flatMap fun c => (escapeChar c).toList := by
    intro cs
    induction cs with
    | nil => exact fun out => (List.append_nil _).symm
    | cons c rest ih =>
        intro out
        rw [List.foldl_cons, ih, String.toList_append, List.flatMap_cons, List.append_assoc]
  unfold quote
  rw [String.toList_append, String.toList_append, String.foldl_eq_foldl_toList, hfold]
  rfl

theorem foldlM_escaped (cs : List Char) : ∀ (reversed : List Char) (found : List Token),
    (cs.flatMap fun c => (escapeChar c).toList).foldlM Lexer.step?
        ⟨.string ⟨reversed, none, true⟩, found⟩ =
      some ⟨.string ⟨cs.reverse ++ reversed, none, true⟩, found⟩ := by
  induction cs with
  | nil => exact fun _ _ => rfl
  | cons c rest ih =>
      intro reversed found
      rw [List.flatMap_cons, List.foldlM_append, foldlM_escapeChar, List.reverse_cons,
        List.append_assoc]
      exact ih (c :: reversed) found

/-- **A quoted text is read as the text.** -/
theorem completes_quote (s : String) : Completes (quote s).toList [.text (some s)] := by
  intro found
  rw [toList_quote, List.cons_append, List.foldlM_cons]
  show List.foldlM Lexer.step? ⟨.string ⟨[], none, true⟩, found⟩ (_ ++ ['"']) = _
  rw [List.foldlM_append, foldlM_escaped, List.append_nil]
  show some (Lexer.mk .between (.text (some (String.ofList s.toList.reverse.reverse)) :: found)) = _
  rw [List.reverse_reverse, String.ofList_toList]
  rfl

end Json

end StoryGraph
