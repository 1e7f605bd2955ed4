import StoryGraph.Proofs.Documents
import StoryGraph.Proofs.RoundTrip

/-!
# The JSON text of a value tells the value

No two values are printed alike. A printed value can even be told from what is printed behind it,
because a text ends with its quote, a list or record with its bracket, and a number is never
followed by a character that could belong to it.

Main definitions: `Json.unescape?`, `Json.Ends`. Main results: `Json.numberText_injective`,
`Json.print_injective`.
-/

namespace StoryGraph.Json

/-! ## Numbers -/

open Binary64 (Layout pointed significand shortest stripZeros parse?_text toList_toString_int)

theorem toString_int_injective {n m : Int} (h : toString n = toString m) : n = m := by
  have hlist := congrArg String.toList h
  rw [toList_toString_int, toList_toString_int] at hlist
  have hminus : ∀ k l : Nat, Nat.toDigits 10 k ≠ '-' :: Nat.toDigits 10 l := by
    intro k l heq
    have hmem : '-' ∈ Nat.toDigits 10 k := heq ▸ List.mem_cons_self
    exact absurd (isDigit_of_mem_toDigits hmem) (by decide)
  have hdigits : ∀ {k l : Nat}, Nat.toDigits 10 k = Nat.toDigits 10 l → k = l := by
    intro k l heq
    rw [← Decimal.digitsValue_toDigits k, heq, Decimal.digitsValue_toDigits]
  by_cases hn : n < 0 <;> by_cases hm : m < 0
  · rw [decide_eq_true hn, decide_eq_true hm, if_pos rfl, if_pos rfl] at hlist
    have := hdigits (List.cons.inj hlist).2
    omega
  · rw [decide_eq_true hn, decide_eq_false hm] at hlist
    exact absurd hlist.symm (hminus _ _)
  · rw [decide_eq_false hn, decide_eq_true hm] at hlist
    exact absurd hlist (hminus _ _)
  · rw [decide_eq_false hn, decide_eq_false hm] at hlist
    have := hdigits hlist
    omega

theorem exists_mark_text (x : Float) :
    ∃ c ∈ (Layout.standard.text x).toList, c = '.' ∨ c = 'e' := by
  have hwrite : ∀ (digits : List Char) (exponent : Int),
      ∃ c ∈ (Layout.standard.write digits exponent).toList, c = '.' ∨ c = 'e' := by
    intro digits exponent
    rw [Binary64.write_standard]
    dsimp only
    split_ifs with hfar hfalling hintegral hplain
    · exact ⟨'e', by simp, .inr rfl⟩
    · exact ⟨'e', by simp, .inr rfl⟩
    · exact ⟨'.', by simp, .inl rfl⟩
    · -- Some digits are left behind the point.
      refine ⟨'.', ?_, .inl rfl⟩
      unfold pointed
      rw [if_neg (by omega)]
      simp
    · exact ⟨'.', by simp, .inl rfl⟩
  unfold Layout.text
  dsimp only
  have hunsigned : ∃ c ∈ (if significand x = 0 then "0" ++ Layout.standard.integralTail
      else Layout.standard.write (Nat.toDigits 10 (stripZeros 20 (shortest x).digits).1)
        ((shortest x).exponent + (stripZeros 20 (shortest x).digits).2)).toList,
      c = '.' ∨ c = 'e' := by
    split
    · exact ⟨'.', by decide, .inl rfl⟩
    · exact hwrite _ _
  split
  · obtain ⟨c, hc, hmark⟩ := hunsigned
    rw [String.toList_append]
    exact ⟨c, List.mem_append_right _ hc, hmark⟩
  · exact hunsigned

theorem text_ne_toString (x : Float) (n : Int) : Layout.standard.text x ≠ toString n := by
  intro heq
  obtain ⟨c, hc, hmark⟩ := exists_mark_text x
  rw [heq, toList_toString_int] at hc
  have hdigit : c ∈ Nat.toDigits 10 n.natAbs → False := by
    intro hmem
    have := isDigit_of_mem_toDigits hmem
    rcases hmark with rfl | rfl <;> exact absurd this (by decide)
  split at hc
  · rcases List.mem_cons.mp hc with rfl | hmem
    · rcases hmark with h | h <;> exact absurd h (by decide)
    · exact hdigit hmem
  · exact hdigit hc

/-- **The text of a number tells the number.** -/
theorem numberText_injective {n m : Number} (h : numberText n = numberText m) : n = m := by
  cases n with
  | int n =>
      cases m with
      | int m => rw [toString_int_injective h]
      | real y => exact absurd h.symm (text_ne_toString y.val n)
  | real x =>
      cases m with
      | int m => exact absurd h (text_ne_toString x.val m)
      | real y =>
          have hread := parse?_text x.isFinite
          rw [show Layout.standard.text x.val = Layout.standard.text y.val from h,
            parse?_text y.isFinite] at hread
          obtain ⟨x, hx⟩ := x
          obtain ⟨y, hy⟩ := y
          obtain rfl : y = x := Option.some.inj hread
          rfl

/-! ## Texts -/

/-- Takes one character off the inside of a quoted text; none at its end. -/
def unescape? : List Char → Option (Char × List Char)
  | [] => none
  | c :: rest =>
    if c = '"' then none
    else if c = '\\' then
      match rest with
      | 'u' :: _ :: _ :: high :: low :: rest => do
        some (Char.ofNat (16 * (← hexValue? high) + (← hexValue? low)), rest)
      | d :: rest => (escaped? d).map (·, rest)
      | [] => none
    else some (c, rest)

theorem unescape?_escapeChar (c : Char) (rest : List Char) :
    unescape? ((escapeChar c).toList ++ rest) = some (c, rest) := by
  have hc := Char.ofNat_toNat c
  unfold escapeChar
  split_ifs with hquote hslash hline htab hreturn hback hfeed hcontrol
  · rw [hquote]
    rfl
  · rw [hslash]
    rfl
  · rw [hline]
    rfl
  · rw [htab]
    rfl
  · rw [hreturn]
    rfl
  · rw [← hc, hback]
    rfl
  · rw [← hc, hfeed]
    rfl
  · have hpair : (hexPair c.toNat).toList =
        [Nat.digitChar (c.toNat / 16), Nat.digitChar (c.toNat % 16)] := String.toList_ofList
    rw [String.toList_append, hpair]
    show (do some (Char.ofNat (16 * (← hexValue? (Nat.digitChar (c.toNat / 16))) +
      (← hexValue? (Nat.digitChar (c.toNat % 16)))), rest)) = _
    rw [hexValue?_digitChar _ (by omega), hexValue?_digitChar _ (by omega)]
    show some (Char.ofNat (16 * (c.toNat / 16) + c.toNat % 16), rest) = _
    rw [Nat.div_add_mod, hc]
  · rw [String.toList_singleton]
    show (if c = '"' then _ else if c = '\\' then _ else _) = _
    rw [if_neg hquote, if_neg hslash]
    rfl

/-- **A quoted text is told from what follows it.** -/
theorem quote_append_inj {s t : String} {u v : List Char}
    (h : (quote s).toList ++ u = (quote t).toList ++ v) : s = t ∧ u = v := by
  have hinside : ∀ (cs ds : List Char),
      (cs.flatMap fun c => (escapeChar c).toList) ++ '"' :: u =
        (ds.flatMap fun c => (escapeChar c).toList) ++ '"' :: v → cs = ds ∧ u = v := by
    intro cs
    induction cs with
    | nil =>
        intro ds heq
        cases ds with
        | nil => exact ⟨rfl, (List.cons.inj heq).2⟩
        | cons d ds =>
            have hread := congrArg unescape? heq
            rw [List.flatMap_cons, List.append_assoc, unescape?_escapeChar] at hread
            exact nomatch hread
    | cons c cs ih =>
        intro ds heq
        have hread := congrArg unescape? heq
        rw [List.flatMap_cons, List.append_assoc, unescape?_escapeChar] at hread
        cases ds with
        | nil => exact nomatch hread
        | cons d ds =>
            rw [List.flatMap_cons, List.append_assoc, unescape?_escapeChar] at hread
            obtain ⟨rfl, hrest⟩ := Prod.mk.inj (Option.some.inj hread)
            obtain ⟨rfl, huv⟩ := ih ds hrest
            exact ⟨rfl, huv⟩
  rw [toList_quote, toList_quote, List.append_assoc, List.append_assoc] at h
  obtain ⟨hchars, huv⟩ := hinside _ _ (List.cons.inj h).2
  exact ⟨String.toList_inj.mp hchars, huv⟩

/-! ## Parts -/

def Ends (cs : List Char) : Prop := ∀ c ∈ cs.head?, isNumeralChar c = false

theorem ends_nil : Ends [] := nofun

theorem ends_cons {c : Char} (h : isNumeralChar c = false) (rest : List Char) :
    Ends (c :: rest) := by
  rintro d ⟨⟩
  exact h

def ToldApart {α : Type} (write : α → String) (a : α) : Prop :=
  ∀ (b : α) (u v : List Char), Ends u → Ends v →
    (write a).toList ++ u = (write b).toList ++ v → a = b ∧ u = v

section

variable {α : Type} {write : α → String} {closing : Char} {items : List α}

theorem laterParts_ends (hclosing : isNumeralChar closing = false) (parts : List String)
    (u : List Char) : Ends (laterParts [closing] parts ++ u) := by
  cases parts with
  | nil => exact ends_cons hclosing u
  | cons part rest => exact ends_cons (by decide) _

theorem laterParts_inj (hclosing : isNumeralChar closing = false) (hcomma : closing ≠ ',')
    (hitems : ∀ item ∈ items, ToldApart write item) : ∀ {others : List α} {u v : List Char},
    laterParts [closing] (items.map write) ++ u = laterParts [closing] (others.map write) ++ v →
      items = others ∧ u = v := by
  induction items with
  | nil =>
      intro others u v h
      cases others with
      | nil => exact ⟨rfl, (List.cons.inj h).2⟩
      | cons other others => exact absurd (List.cons.inj h).1 hcomma
  | cons item rest ih =>
      intro others u v h
      obtain ⟨hitem, hrest⟩ := List.forall_mem_cons.mp hitems
      cases others with
      | nil => exact absurd (List.cons.inj h).1.symm hcomma
      | cons other others =>
          rw [List.map_cons, List.map_cons, laterParts, laterParts, List.cons_append,
            List.cons_append, List.append_assoc, List.append_assoc] at h
          obtain ⟨rfl, hlater⟩ := hitem other _ _ (laterParts_ends hclosing _ u)
            (laterParts_ends hclosing _ v) (List.cons.inj h).2
          obtain ⟨rfl, huv⟩ := ih hrest hlater
          exact ⟨rfl, huv⟩

/-- **Parts between brackets are told from what follows the closing one**, if each of them is and
none begins with the closing bracket. -/
theorem firstPart_inj (hclosing : isNumeralChar closing = false) (hcomma : closing ≠ ',')
    (hopen : ∀ item, ∃ c rest, (write item).toList = c :: rest ∧ c ≠ closing)
    (hitems : ∀ item ∈ items, ToldApart write item) {others : List α} {u v : List Char}
    (h : firstPart [closing] (items.map write) ++ u =
      firstPart [closing] (others.map write) ++ v) : items = others ∧ u = v := by
  have hne : ∀ (item : α) (w z : List Char), (write item).toList ++ w ≠ closing :: z := by
    intro item w z heq
    obtain ⟨c, rest, htext, hc⟩ := hopen item
    rw [htext] at heq
    exact hc (List.cons.inj heq).1
  cases items with
  | nil =>
      cases others with
      | nil => exact ⟨rfl, (List.cons.inj h).2⟩
      | cons other others =>
          rw [List.map_cons, firstPart, List.append_assoc] at h
          exact absurd h.symm (hne other _ u)
  | cons item rest =>
      obtain ⟨hitem, hrest⟩ := List.forall_mem_cons.mp hitems
      rw [List.map_cons, firstPart, List.append_assoc] at h
      cases others with
      | nil => exact absurd h (hne item _ v)
      | cons other others =>
          rw [List.map_cons, firstPart, List.append_assoc] at h
          obtain ⟨rfl, hlater⟩ := hitem other _ _ (laterParts_ends hclosing _ u)
            (laterParts_ends hclosing _ v) h
          obtain ⟨rfl, huv⟩ := laterParts_inj hclosing hcomma hrest hlater
          exact ⟨rfl, huv⟩

end

/-! ## Values -/

theorem numberText_ne_empty (n : Number) : (numberText n).toList ≠ [] := by
  cases n with
  | int n =>
      show (toString n).toList ≠ []
      rw [toList_toString_int]
      split
      · exact List.cons_ne_nil _ _
      · exact Nat.toDigits_ne_nil
  | real x =>
      obtain ⟨c, hc, -⟩ := exists_mark_text x.val
      exact List.ne_nil_of_mem hc

theorem number_toldApart (n : Number) : ToldApart numberText n := by
  intro m u v hu hv h
  have htake : ∀ (n : Number) {w : List Char}, Ends w →
      ((numberText n).toList ++ w).takeWhile isNumeralChar = (numberText n).toList := by
    intro n w hw
    rw [List.takeWhile_append_of_pos (numeralText_numberText n)]
    cases w with
    | nil => rw [List.takeWhile_nil, List.append_nil]
    | cons c rest =>
        rw [List.takeWhile_cons_of_neg (ne_true_of_eq_false (hw c rfl)), List.append_nil]
  have htext := congrArg (List.takeWhile isNumeralChar) h
  rw [htake n hu, htake m hv] at htext
  rw [htext] at h
  exact ⟨numberText_injective (String.toList_inj.mp htext), List.append_cancel_left h⟩

def kind : Value → Nat
  | .null => 0
  | .bool _ => 1
  | .number _ => 2
  | .text _ => 3
  | .list _ => 4
  | .record _ => 5

def kindOfHead (c : Char) : Nat :=
  if isNumeralChar c then 2
  else if c = 'n' then 0
  else if c = 't' ∨ c = 'f' then 1
  else if c = '"' then 3
  else if c = '[' then 4
  else if c = '\x7b' then 5
  else 6

theorem exists_head (value : Value) :
    ∃ c rest, (print value).toList = c :: rest ∧ kindOfHead c = kind value := by
  cases value with
  | null => exact ⟨'n', _, rfl, rfl⟩
  | bool b => cases b <;> exact ⟨_, _, rfl, rfl⟩
  | number n =>
      cases htext : (numberText n).toList with
      | nil => exact absurd htext (numberText_ne_empty n)
      | cons c rest =>
          refine ⟨c, rest, htext, ?_⟩
          have hc := numeralText_numberText n c (htext ▸ List.mem_cons_self)
          unfold kindOfHead
          rw [if_pos hc]
          rfl
  | text s => exact ⟨'"', _, toList_quote s, rfl⟩
  | list items => exact ⟨'[', _, toList_bracketed _ _ _, rfl⟩
  | record fields => exact ⟨'\x7b', _, toList_bracketed _ _ _, rfl⟩

theorem kind_eq {a b : Value} {u v : List Char}
    (h : (print a).toList ++ u = (print b).toList ++ v) : kind a = kind b := by
  obtain ⟨c, rest, hc, hkind⟩ := exists_head a
  obtain ⟨d, others, hd, hkind'⟩ := exists_head b
  rw [hc, hd] at h
  rw [← hkind, ← hkind', (List.cons.inj h).1]

theorem printItems_eq (items : List Value) : printItems items = items.map print := by
  have h := printItems_map id items
  rwa [List.map_id] at h

def printField (field : String × Value) : String := quote field.1 ++ ":" ++ print field.2

theorem printFields_eq (fields : List (String × Value)) :
    printFields fields = fields.map printField := by
  induction fields with
  | nil => rfl
  | cons field rest ih => rw [printFields, ih, List.map_cons]; rfl

theorem toList_printField (field : String × Value) :
    (printField field).toList = (quote field.1).toList ++ ':' :: (print field.2).toList := by
  unfold printField
  rw [String.toList_append, String.toList_append, List.append_assoc]
  rfl

theorem field_toldApart {field : String × Value} (h : ToldApart print field.2) :
    ToldApart printField field := by
  intro other u v hu hv heq
  rw [toList_printField, toList_printField, List.append_assoc, List.append_assoc] at heq
  obtain ⟨hname, hrest⟩ := quote_append_inj heq
  obtain ⟨hvalue, huv⟩ := h other.2 u v hu hv (List.cons.inj hrest).2
  exact ⟨Prod.ext hname hvalue, huv⟩

theorem list_toldApart {items : List Value} (h : ∀ item ∈ items, ToldApart print item) :
    ToldApart print (.list items) := by
  intro b u v _ _ heq
  have hkind := kind_eq heq
  cases b with
  | list others =>
      rw [print, print, toList_bracketed, toList_bracketed, printItems_eq, printItems_eq] at heq
      have hopen : ∀ item, ∃ c rest, (print item).toList = c :: rest ∧ c ≠ ']' := by
        intro item
        obtain ⟨c, rest, htext, hc⟩ := exists_head item
        refine ⟨c, rest, htext, ?_⟩
        rintro rfl
        cases item <;> exact nomatch hc
      obtain ⟨rfl, huv⟩ := firstPart_inj (by decide) (by decide) hopen h (List.cons.inj heq).2
      exact ⟨rfl, huv⟩
  | _ => exact nomatch hkind

theorem record_toldApart {fields : List (String × Value)}
    (h : ∀ field ∈ fields, ToldApart print field.2) : ToldApart print (.record fields) := by
  intro b u v _ _ heq
  have hkind := kind_eq heq
  cases b with
  | record others =>
      rw [print, print, toList_bracketed, toList_bracketed, printFields_eq, printFields_eq] at heq
      have hopen : ∀ field, ∃ c rest, (printField field).toList = c :: rest ∧ c ≠ '\x7d' := by
        intro field
        rw [toList_printField, toList_quote]
        exact ⟨'"', _, rfl, by decide⟩
      obtain ⟨rfl, huv⟩ := firstPart_inj (by decide) (by decide) hopen
        (fun field hfield => field_toldApart (h field hfield)) (List.cons.inj heq).2
      exact ⟨rfl, huv⟩
  | _ => exact nomatch hkind

mutual

/-- **A printed value is told from all other values, and from what follows.** -/
theorem toldApart : ∀ value : Value, ToldApart print value
  | .null => by
      intro b u v _ _ h
      have hkind := kind_eq h
      cases b with
      | null => exact ⟨rfl, List.append_cancel_left h⟩
      | _ => exact nomatch hkind
  | .bool b => by
      intro other u v _ _ h
      have hkind := kind_eq h
      cases other with
      | bool c =>
          cases b <;> cases c
          · exact ⟨rfl, List.append_cancel_left h⟩
          · exact nomatch (List.cons.inj h).1
          · exact nomatch (List.cons.inj h).1
          · exact ⟨rfl, List.append_cancel_left h⟩
      | _ => exact nomatch hkind
  | .number n => by
      intro b u v hu hv h
      have hkind := kind_eq h
      cases b with
      | number m =>
          obtain ⟨rfl, huv⟩ := number_toldApart n m u v hu hv h
          exact ⟨rfl, huv⟩
      | _ => exact nomatch hkind
  | .text s => by
      intro b u v _ _ h
      have hkind := kind_eq h
      cases b with
      | text t =>
          obtain ⟨rfl, huv⟩ := quote_append_inj h
          exact ⟨rfl, huv⟩
      | _ => exact nomatch hkind
  | .list items => list_toldApart (toldApart_all items)
  | .record fields => record_toldApart (toldApart_fields fields)

theorem toldApart_all : ∀ items : List Value, ∀ item ∈ items, ToldApart print item
  | [] => List.forall_mem_nil _
  | item :: rest => List.forall_mem_cons.mpr ⟨toldApart item, toldApart_all rest⟩

theorem toldApart_fields : ∀ fields : List (String × Value),
    ∀ field ∈ fields, ToldApart print field.2
  | [] => List.forall_mem_nil _
  | (_, value) :: rest => List.forall_mem_cons.mpr ⟨toldApart value, toldApart_fields rest⟩

end

/-- **No two values are printed alike.** -/
theorem print_injective {a b : Value} (h : print a = print b) : a = b := by
  refine (toldApart a b [] [] ends_nil ends_nil ?_).1
  rw [h]

end StoryGraph.Json
