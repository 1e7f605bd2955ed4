import StoryGraph.Proofs.Normal

/-!
# The wire

What is written for a stored value or a property list is read back as it was, as long as its
numbers are finite. `Denotes` lists all forms that are read and what each stands for: a reference
and a number are never written alike, because only an integer that is not negative is a reference.
So whatever is read, in any form, is the same after it was written and read once more.

Main definitions: `Compact.Denotes`, `Props.Denotes`, `Props.Admits`.
-/

namespace StoryGraph

/-! ## Results of two steps -/

theorem bind_eq_ok {ε α β : Type} {x : Except ε α} {f : α → Except ε β} {b : β} :
    x >>= f = .ok b ↔ ∃ a, x = .ok a ∧ f a = .ok b := by
  cases x with
  | error e => exact ⟨nofun, fun ⟨_, h, _⟩ => nomatch h⟩
  | ok a => exact ⟨fun h => ⟨a, rfl, h⟩, fun ⟨_, h, hf⟩ => Except.ok.inj h ▸ hf⟩

theorem map_eq_ok {ε α β : Type} {x : Except ε α} {f : α → β} {b : β} :
    x.map f = .ok b ↔ ∃ a, x = .ok a ∧ f a = b := by
  cases x with
  | error e => exact ⟨nofun, fun ⟨_, h, _⟩ => nomatch h⟩
  | ok a => exact ⟨fun h => ⟨a, rfl, Except.ok.inj h⟩,
      fun ⟨_, h, hf⟩ => congrArg _ (Except.ok.inj h ▸ hf)⟩

/-! ## What is read -/

namespace Compact

/-- What a value on the wire stands for. An integer that is not negative is a reference, any other
number is a number. In a record the fields `n`, `t` and `v` count, and a missing `v` is null. -/
inductive Denotes : Value → Compact → Prop where
  | null : Denotes .null .null
  | bool (b : Bool) : Denotes (.bool b) (.bool b)
  | reference {n : Nat} : n < 2 ^ 32 → Denotes (.number (.int n)) (.string (UInt32.ofNat n))
  | number {n : Number} : n.toNat? = none → Denotes (.number n) (.number n.toFloat)
  | list {items : List Value} {stored : List Compact} :
      List.Forall₂ Denotes items stored → Denotes (.list items) (.list stored)
  | attribute {fields : Fields} {name kind : Nat} {stored : Compact} : name < 2 ^ 32 →
      kind < 2 ^ 32 → fields.get? "n" = some (.ofNat name) → fields.get? "t" = some (.ofNat kind) →
      (fields.get? "v" = none → stored = .null) →
      (∀ value, fields.get? "v" = some value → Denotes value stored) →
      Denotes (.record fields) (.attribute (UInt32.ofNat name) (UInt32.ofNat kind) stored)

theorem decodeRef_eq_ok {n : Nat} {ref : Ref} :
    decodeRef n = .ok ref ↔ n < 2 ^ 32 ∧ ref = UInt32.ofNat n := by
  unfold decodeRef
  split <;> rename_i hn
  · exact ⟨fun h => ⟨hn, (Except.ok.inj h).symm⟩, fun h => congrArg _ h.2.symm⟩
  · exact ⟨nofun, fun h => absurd h.1 hn⟩

theorem toNat?_eq_some {value : Value} {n : Nat} : value.toNat? = some n ↔ value = .ofNat n := by
  constructor
  · intro h
    match value, h with
    | .number (.int (.ofNat m)), h => exact congrArg Value.ofNat (Option.some.inj h)
  · rintro rfl
    rfl

theorem decodeField_eq_ok {fields : Fields} {name : String} {ref : Ref} :
    decodeField fields name = .ok ref ↔
      ∃ n < 2 ^ 32, fields.get? name = some (.ofNat n) ∧ ref = UInt32.ofNat n := by
  unfold decodeField
  constructor
  · intro h
    cases hn : (fields.get? name).bind Value.toNat? with
    | none =>
        rw [hn] at h
        exact nomatch h
    | some n =>
        rw [hn] at h
        obtain ⟨hlt, href⟩ := decodeRef_eq_ok.mp h
        obtain ⟨value, hvalue, hnat⟩ := Option.bind_eq_some_iff.mp hn
        exact ⟨n, hlt, hvalue.trans (congrArg some (toNat?_eq_some.mp hnat)), href⟩
  · rintro ⟨n, hlt, hget, href⟩
    rw [hget]
    exact decodeRef_eq_ok.mpr ⟨hlt, href⟩

theorem decode_number_eq_ok {n : Number} {stored : Compact} :
    decode (.number n) = .ok stored ↔ Denotes (.number n) stored := by
  rw [decode]
  cases hn : n.toNat? with
  | none =>
      constructor
      · intro h
        exact Except.ok.inj h ▸ .number hn
      · intro h
        cases h with
        | reference => exact nomatch hn
        | number => rfl
  | some m =>
      -- An integer that is not negative can only be a reference, however large it is.
      obtain rfl : n = .int m := Value.number.inj (toNat?_eq_some.mp hn)
      constructor
      · intro h
        obtain ⟨ref, href, rfl⟩ := map_eq_ok.mp h
        obtain ⟨hlt, rfl⟩ := decodeRef_eq_ok.mp href
        exact .reference hlt
      · intro h
        cases h with
        | reference hlt => exact map_eq_ok.mpr ⟨_, decodeRef_eq_ok.mpr ⟨hlt, rfl⟩, rfl⟩
        | number hnone => exact nomatch hnone

mutual

/-- **A value on the wire is read exactly as what it stands for.** -/
theorem decode_eq_ok : ∀ (value : Value) (stored : Compact),
    decode value = .ok stored ↔ Denotes value stored
  | .null, stored => by
      constructor
      · intro h
        exact Except.ok.inj h ▸ .null
      · rintro ⟨⟩
        rfl
  | .bool b, stored => by
      constructor
      · intro h
        exact Except.ok.inj h ▸ .bool b
      · rintro ⟨⟩
        rfl
  | .number n, stored => decode_number_eq_ok
  | .text s, stored => ⟨nofun, nofun⟩
  | .list items, stored => by
      rw [decode, map_eq_ok]
      constructor
      · rintro ⟨stored, h, rfl⟩
        exact .list ((decodeAll_eq_ok items stored).mp h)
      · rintro (_ | _ | _ | _ | h)
        exact ⟨_, (decodeAll_eq_ok items _).mpr h, rfl⟩
  | .record fields, stored => by
      rw [decode, bind_eq_ok]
      simp only [bind_eq_ok, decodeField_eq_ok]
      constructor
      · rintro ⟨_, ⟨name, hname, hgetName, rfl⟩, _, ⟨kind, hkind, hgetKind, rfl⟩, value, h, hstored⟩
        obtain rfl := Except.ok.inj hstored
        obtain ⟨hnone, hsome⟩ := (decodeMember_eq_ok "v" fields value).mp h
        exact .attribute hname hkind hgetName hgetKind hnone hsome
      · rintro (_ | _ | _ | _ | _ | ⟨hname, hkind, hgetName, hgetKind, hnone, hsome⟩)
        exact ⟨_, ⟨_, hname, hgetName, rfl⟩, _, ⟨_, hkind, hgetKind, rfl⟩, _,
          (decodeMember_eq_ok "v" fields _).mpr ⟨hnone, hsome⟩, rfl⟩

theorem decodeAll_eq_ok : ∀ (items : List Value) (stored : List Compact),
    decodeAll items = .ok stored ↔ List.Forall₂ Denotes items stored
  | [], stored => by
      constructor
      · intro h
        exact Except.ok.inj h ▸ .nil
      · rintro ⟨⟩
        rfl
  | item :: rest, stored => by
      rw [decodeAll, bind_eq_ok]
      simp only [bind_eq_ok]
      constructor
      · rintro ⟨value, hvalue, values, hvalues, h⟩
        exact Except.ok.inj h ▸ .cons ((decode_eq_ok item value).mp hvalue)
          ((decodeAll_eq_ok rest values).mp hvalues)
      · rintro (_ | ⟨hvalue, hvalues⟩)
        exact ⟨_, (decode_eq_ok item _).mpr hvalue, _, (decodeAll_eq_ok rest _).mpr hvalues, rfl⟩

theorem decodeMember_eq_ok (name : String) : ∀ (fields : List (String × Value)) (stored : Compact),
    decodeMember name fields = .ok stored ↔
      (Fields.get? fields name = none → stored = .null) ∧
        ∀ value, Fields.get? fields name = some value → Denotes value stored
  | [], stored => by
      constructor
      · intro h
        exact ⟨fun _ => (Except.ok.inj h).symm, nofun⟩
      · intro h
        exact congrArg _ (h.1 rfl).symm
  | (other, value) :: rest, stored => by
      rw [decodeMember, Fields.get?_cons]
      by_cases h : name = other
      · rw [if_pos h, if_pos (beq_iff_eq.mpr h), decode_eq_ok value stored]
        constructor
        · intro hdenotes
          exact ⟨nofun, fun _ hvalue => Option.some.inj hvalue ▸ hdenotes⟩
        · intro hfield
          exact hfield.2 value rfl
      · rw [if_neg h, if_neg (mt beq_iff_eq.mp h)]
        exact decodeMember_eq_ok name rest stored

end

/-! ## What is written -/

instance (stored : Compact) : Decidable stored.AllFinite :=
  inferInstanceAs (Decidable (∀ x ∈ stored.numbers, Binary64.isFinite x = true))

theorem denotes_ref {ref : Ref} : Denotes (encodeRef ref) (.string ref) := by
  have h := Denotes.reference ref.toNat_lt
  rwa [UInt32.ofNat_toNat] at h

theorem denotes_real {x : Float} (h : Binary64.isFinite x = true) :
    Denotes (encode (.number x)) (.number x) := by
  rw [encode, FiniteDouble.ofFloat?, dif_pos h]
  exact .number rfl

mutual

theorem denotes_encode : ∀ stored : Compact, stored.AllFinite → Denotes stored.encode stored
  | .null, _ => .null
  | .bool b, _ => .bool b
  | .number x, hfinite => denotes_real (hfinite x (List.mem_singleton.mpr rfl))
  | .string _, _ => denotes_ref
  | .list items, hfinite => .list (denotes_encodeAll items hfinite)
  | .attribute name kind value, hfinite => by
      have h : Denotes (encode (.attribute name kind value))
          (.attribute (UInt32.ofNat name.toNat) (UInt32.ofNat kind.toNat) value) :=
        .attribute name.toNat_lt kind.toNat_lt rfl rfl nofun
          fun _ hvalue => Option.some.inj hvalue ▸ denotes_encode value hfinite
      rwa [UInt32.ofNat_toNat, UInt32.ofNat_toNat] at h

theorem denotes_encodeAll : ∀ items : List Compact,
    (∀ x ∈ numbersOfAll items, Binary64.isFinite x = true) →
      List.Forall₂ Denotes (encodeAll items) items
  | [], _ => .nil
  | item :: rest, hfinite => by
      rw [numbersOfAll, List.forall_mem_append] at hfinite
      exact .cons (denotes_encode item hfinite.1) (denotes_encodeAll rest hfinite.2)

end

theorem decode_encode {stored : Compact} (h : stored.AllFinite) :
    decode stored.encode = .ok stored :=
  (decode_eq_ok _ _).mpr (denotes_encode stored h)

mutual

theorem Denotes.allFinite : ∀ {value : Value} {stored : Compact}, Denotes value stored →
    value.FitsWords → stored.AllFinite
  | _, _, .null, _ => fun _ h => absurd h List.not_mem_nil
  | _, _, .bool _, _ => fun _ h => absurd h List.not_mem_nil
  | _, _, .reference _, _ => fun _ h => absurd h List.not_mem_nil
  | _, _, .number _, hfits => fun _ hx => List.mem_singleton.mp hx ▸ number_finite hfits
  | _, _, .list h, hfits => allFinite_of_forall₂ h (Value.fitsWords_list.mp hfits)
  | _, _, @Denotes.attribute fields _ _ _ _ _ _ _ hnone hsome, hfits => by
      cases hvalue : fields.get? "v" with
      | none =>
          rw [hnone hvalue]
          exact fun _ h => absurd h List.not_mem_nil
      | some value =>
          exact (hsome value hvalue).allFinite
            (Value.fitsWords_record.mp hfits _ (Fields.mem_of_get? hvalue))

theorem allFinite_of_forall₂ : ∀ {items : List Value} {stored : List Compact},
    List.Forall₂ Denotes items stored → (∀ item ∈ items, item.FitsWords) →
      ∀ x ∈ numbersOfAll stored, Binary64.isFinite x = true
  | _, _, .nil, _ => fun _ h => absurd h List.not_mem_nil
  | _, _, .cons h hrest, hfits => by
      obtain ⟨hfit, hfits⟩ := List.forall_mem_cons.mp hfits
      rw [numbersOfAll, List.forall_mem_append]
      exact ⟨h.allFinite hfit, allFinite_of_forall₂ hrest hfits⟩

end

/-- **What was read once comes back** when it is written and read again. -/
theorem decode_encode_of_decode {value : Value} {stored : Compact} (hfits : value.FitsWords)
    (h : decode value = .ok stored) : stored.AllFinite ∧ decode stored.encode = .ok stored := by
  have hfinite := ((decode_eq_ok value stored).mp h).allFinite hfits
  exact ⟨hfinite, decode_encode hfinite⟩

end Compact

/-! ## Property lists -/

namespace Props

def AllFinite (props : Props) : Prop := ∀ pair ∈ props.pairs, pair.2.AllFinite

instance (props : Props) : Decidable props.AllFinite :=
  inferInstanceAs (Decidable (∀ pair ∈ props.pairs, pair.2.AllFinite))

theorem mem_encode {props : Props} {item : Value} (h : item ∈ props.encode) :
    ∃ pair ∈ props.pairs, item = Compact.encodeRef pair.1 ∨ item = pair.2.encode := by
  obtain ⟨pair, hpair, hitem⟩ := List.mem_flatMap.mp h
  simp only [List.mem_cons, List.not_mem_nil, or_false] at hitem
  exact ⟨pair, hpair, hitem⟩

inductive Denotes : List Value → List (Ref × Compact) → Prop where
  | nil : Denotes [] []
  | cons {n : Nat} {value : Value} {stored : Compact} {flat : List Value}
      {pairs : List (Ref × Compact)} : n < 2 ^ 32 → Compact.Denotes value stored →
      Denotes flat pairs → Denotes (.ofNat n :: value :: flat) ((UInt32.ofNat n, stored) :: pairs)

theorem Denotes.even {flat : List Value} {pairs : List (Ref × Compact)} (h : Denotes flat pairs) :
    flat.length % 2 = 0 := by
  induction h with
  | nil => rfl
  | cons _ _ _ ih =>
      rw [List.length_cons, List.length_cons]
      omega

theorem decodePairs_eq_ok : ∀ (flat : List Value) (pairs : List (Ref × Compact)),
    flat.length % 2 = 0 → (decodePairs flat = .ok pairs ↔ Denotes flat pairs)
  | [], pairs, _ => by
      constructor
      · intro h
        exact Except.ok.inj h ▸ .nil
      · rintro ⟨⟩
        rfl
  | [_], _, hodd => nomatch hodd
  -- The list is read by two items at a time, so its parity stays.
  | key :: value :: rest, pairs, heven => by
      have hrest := fun pairs => decodePairs_eq_ok rest pairs (by
        rw [List.length_cons, List.length_cons] at heven
        omega)
      rw [decodePairs]
      cases hkey : key.toNat? with
      | none =>
          refine ⟨nofun, fun h => ?_⟩
          cases h
          exact nomatch hkey
      | some n =>
          obtain rfl := Compact.toNat?_eq_some.mp hkey
          simp only [bind_eq_ok, Compact.decodeRef_eq_ok, Compact.decode_eq_ok, hrest]
          constructor
          · rintro ⟨_, ⟨hn, rfl⟩, stored, hstored, pairs, hpairs, h⟩
            exact Except.ok.inj h ▸ .cons hn hstored hpairs
          · rintro ⟨⟩
            rename_i hn hstored hpairs
            exact ⟨_, ⟨hn, rfl⟩, _, hstored, _, hpairs, rfl⟩

/-- **A flat list is read exactly as what it stands for.** -/
theorem decode_eq_ok {flat : List Value} {props : Props} :
    decode flat = .ok props ↔ Denotes flat props.pairs := by
  unfold decode
  split <;> rename_i hlength
  · exact ⟨nofun, fun h => absurd h.even hlength⟩
  · rw [map_eq_ok]
    have heven := Decidable.not_not.mp hlength
    constructor
    · rintro ⟨pairs, h, rfl⟩
      exact (decodePairs_eq_ok flat pairs heven).mp h
    · intro h
      exact ⟨props.pairs, (decodePairs_eq_ok flat _ heven).mpr h, rfl⟩

/-- What may stand at a position of a flat list: references at the even ones, where the keys are,
and values that are read at the odd ones. -/
def Admits (i : Nat) (item : Value) : Prop :=
  if i % 2 = 0 then ∃ n < 2 ^ 32, item = .ofNat n else ∃ stored, Compact.Denotes item stored

theorem exists_denotes : ∀ flat : List Value, (∃ pairs, Denotes flat pairs) ↔
    flat.length % 2 = 0 ∧ ∀ i item, flat[i]? = some item → Admits i item
  | [] => ⟨fun _ => ⟨rfl, nofun⟩, fun _ => ⟨_, .nil⟩⟩
  | [_] => by
      constructor
      · rintro ⟨_, ⟨⟩⟩
      · rintro ⟨⟨⟩, _⟩
  | key :: value :: rest => by
      have hlength : (key :: value :: rest).length % 2 = rest.length % 2 := by
        rw [List.length_cons, List.length_cons]
        omega
      have hadmits : ∀ i item, Admits (i + 2) item ↔ Admits i item := by
        intro i item
        unfold Admits
        rw [Nat.add_mod_right]
      rw [hlength]
      constructor
      · rintro ⟨_, ⟨⟩⟩
        rename_i n stored pairs hn hstored hpairs
        obtain ⟨heven, hrest⟩ := (exists_denotes rest).mp ⟨pairs, hpairs⟩
        refine ⟨heven, fun i item hitem => ?_⟩
        match i with
        | 0 => exact Option.some.inj hitem ▸ ⟨n, hn, rfl⟩
        | 1 => exact Option.some.inj hitem ▸ ⟨stored, hstored⟩
        | i + 2 => exact (hadmits i item).mpr (hrest i item hitem)
      · rintro ⟨heven, hitems⟩
        obtain ⟨n, hn, rfl⟩ := hitems 0 key rfl
        obtain ⟨stored, hstored⟩ := hitems 1 value rfl
        obtain ⟨pairs, hpairs⟩ := (exists_denotes rest).mpr
          ⟨heven, fun i item hitem => (hadmits i item).mp (hitems (i + 2) item hitem)⟩
        exact ⟨_, .cons hn hstored hpairs⟩

/-- **A flat list is read** if its length is even and every item may stand where it stands. -/
theorem exists_decode_eq_ok (flat : List Value) : (∃ props, decode flat = .ok props) ↔
    flat.length % 2 = 0 ∧ ∀ i item, flat[i]? = some item → Admits i item := by
  rw [← exists_denotes]
  constructor
  · rintro ⟨props, h⟩
    exact ⟨props.pairs, decode_eq_ok.mp h⟩
  · rintro ⟨pairs, h⟩
    exact ⟨⟨pairs⟩, decode_eq_ok.mpr h⟩

theorem denotes_encode (props : Props) (h : props.AllFinite) :
    Denotes props.encode props.pairs := by
  obtain ⟨pairs⟩ := props
  induction pairs with
  | nil => exact .nil
  | cons pair rest ih =>
      obtain ⟨key, value⟩ := pair
      obtain ⟨hvalue, hrest⟩ := List.forall_mem_cons.mp h
      have hpair := Denotes.cons key.toNat_lt (Compact.denotes_encode value hvalue) (ih hrest)
      rwa [UInt32.ofNat_toNat] at hpair

theorem decode_encode {props : Props} (h : props.AllFinite) : decode props.encode = .ok props :=
  decode_eq_ok.mpr (denotes_encode props h)

theorem Denotes.allFinite {flat : List Value} {pairs : List (Ref × Compact)}
    (h : Denotes flat pairs) (hfits : ∀ item ∈ flat, item.FitsWords) :
    ∀ pair ∈ pairs, pair.2.AllFinite := by
  induction h with
  | nil => exact fun _ h => absurd h List.not_mem_nil
  | cons _ hvalue _ ih =>
      obtain ⟨-, hfits⟩ := List.forall_mem_cons.mp hfits
      obtain ⟨hfit, hfits⟩ := List.forall_mem_cons.mp hfits
      exact List.forall_mem_cons.mpr ⟨hvalue.allFinite hfit, ih hfits⟩

/-- **What was read once comes back** when it is written and read again. -/
theorem decode_encode_of_decode {flat : List Value} {props : Props}
    (hfits : ∀ item ∈ flat, item.FitsWords) (h : decode flat = .ok props) :
    props.AllFinite ∧ decode props.encode = .ok props := by
  have hfinite : props.AllFinite := (decode_eq_ok.mp h).allFinite hfits
  exact ⟨hfinite, decode_encode hfinite⟩

end Props

end StoryGraph
