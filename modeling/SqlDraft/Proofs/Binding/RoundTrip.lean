import SqlDraft.Proofs.Binding.Reading

/-!
# Bound values are read back

What is written for a value is read as this value, item by item, but for what is written as text:
of that its plain text is received. Lengths and the header of an array are right for any items,
nested to any depth, as long as their numbers and lengths fit into four bytes.
-/

namespace SqlDraft

namespace SqlType

/-- The types that the values of a type are made of: the type itself, and those that the members of
an array are made of. -/
inductive HasLevel : SqlType → SqlType → Prop
  | self (t : SqlType) : HasLevel t t
  | member {t m s : SqlType} (ht : t.member? = some m) (h : HasLevel m s) : HasLevel t s

/-- No level of the type is for numbers with a point, and none takes lists as well as text. -/
def Readable (t : SqlType) : Prop :=
  ∀ s, t.HasLevel s →
    s ≠ .builtin .float4 ∧ s ≠ .builtin .float8 ∧ ¬ (s.member?.isSome ∧ s.TakesText)

/-- What can be read of an array can be read of its members. -/
theorem Readable.member {t m : SqlType} (h : t.Readable) (ht : t.member? = some m) : m.Readable :=
  fun s hs => h s (.member ht hs)

end SqlType

namespace Value

mutual

/-- What is received of a value: its plain text where a type takes text, and otherwise the value
itself. -/
def asReceived (t : SqlType) : Value → Value
  | .null => .null
  | .list items =>
    match t.member? with
    | some member => .list (asReceivedItems member items)
    | none => .list items
  | v => if t.TakesText then .text v.plainText else v

/-- What is received of the items of a list. -/
def asReceivedItems (member : SqlType) : List Value → List Value
  | [] => []
  | v :: rest => asReceived member v :: asReceivedItems member rest

end

/-- Items are received one by one. -/
@[simp] theorem asReceivedItems_eq_map (member : SqlType) (items : List Value) :
    asReceivedItems member items = items.map (asReceived member) := by
  induction items with
  | nil => rfl
  | cons v rest ih => simp [asReceivedItems, ih]

/-- A value that is neither null nor a list. -/
def IsScalar : Value → Prop
  | .null | .list _ => False
  | _ => True

/-- What is neither null nor a list is received as its text or as it is. -/
theorem asReceived_of_isScalar {v : Value} (hv : v.IsScalar) (t : SqlType) :
    v.asReceived t = if t.TakesText then .text v.plainText else v := by
  cases v with
  | null | list => exact hv.elim
  | bool | int | float | text => rfl

/-- Only null is received as null. -/
theorem isNull_asReceived (v : Value) (t : SqlType) : (v.asReceived t).isNull = v.isNull := by
  cases v with
  | null => rfl
  | list items =>
    rw [asReceived]
    split <;> rfl
  | bool | int | float | text =>
    unfold asReceived
    split <;> rfl

/-- A list to be bound has fewer items than a length can count, each of fewer bytes. -/
def WithinLengths (v : Value) (t : SqlType) : Prop :=
  ∀ items member, v = .list items → t.member? = some member →
    items.length < 2147483648 ∧ ∀ i ∈ items, (i.write member).bytes.length < 2147483648

/-! ## Values that are no lists -/

/-- A type that takes text takes every value that is neither null nor a list, as its plain text. -/
theorem write_of_takesText {v : Value} {t : SqlType} (hv : v.IsScalar) (ht : t.TakesText) :
    v.write t = .present (textBytes t v.plainText) := by
  have htext : v.writeAsText t = .present (textBytes t v.plainText) :=
    if_pos (SqlType.takesText_iff.mp ht)
  -- A type with a form of its own for some values does not take text.
  cases v with
  | null | list => exact hv.elim
  | text s => exact htext
  | bool b =>
    unfold write
    split
    · exact absurd ht (SqlType.not_takesText rfl)
    · exact htext
  | int i =>
    unfold write
    split
    iterate 5 exact absurd ht (SqlType.not_takesText rfl)
    exact htext
  | float x =>
    unfold write
    split
    iterate 2 exact absurd ht (SqlType.not_takesText rfl)
    exact htext

/-- The bytes of a text are read as the text. -/
theorem readUtf8_utf8Bytes (s : String) : readUtf8 (utf8Bytes s) = some (.text s) := by
  have hbytes : (⟨(utf8Bytes s).toArray⟩ : ByteArray) = s.toUTF8 := rfl
  have hread : String.fromUTF8? s.toUTF8 = some s := dif_pos s.isValidUTF8
  rw [readUtf8, hbytes, hread, Option.map_some]

/-- What is sent as text is read as the text, with the number of its format or without. -/
theorem readText_textBytes (t : SqlType) (s : String) :
    readText t (textBytes t s) = some (.text s) := by
  have hversioned : t.isVersionedText = true ↔ t.name ∈ ["ltree", "lquery", "ltxtquery"] :=
    List.contains_iff_mem
  unfold readText textBytes
  by_cases h : t.name ∈ ["ltree", "lquery", "ltxtquery"]
  · rw [if_pos h, if_pos (hversioned.mpr h)]
    exact readUtf8_utf8Bytes s
  · rw [if_neg h, if_neg fun hv => h (hversioned.mp hv)]
    exact readUtf8_utf8Bytes s

/-- Whatever a type for text receives is read as text. -/
theorem readWhole_of_takesText {t : SqlType} (ht : t.TakesText) (bytes : List UInt8) :
    t.readWhole bytes = readText t bytes := by
  unfold SqlType.readWhole
  split
  iterate 4 exact absurd ht (SqlType.not_takesText rfl)
  exact if_pos ht

/-- A whole number that has room in so many bytes is read back from them. -/
theorem readInt_writeInt {width : Nat} {i : Int64} (hwidth : 0 < width)
    (hlow : -(Nat.pow 2 (8 * width - 1) : Int) ≤ i.toInt)
    (hhigh : i.toInt < (Nat.pow 2 (8 * width - 1) : Nat)) :
    readInt width (writeInt width i).bytes = some (.int i) := by
  have hmodulus : Nat.pow 256 width = 2 * Nat.pow 2 (8 * width - 1) := by
    obtain ⟨bits, hbits⟩ : ∃ bits, 8 * width = bits + 1 := ⟨8 * width - 1, by omega⟩
    have hbytes : Nat.pow 256 width = Nat.pow 2 (8 * width) := (Nat.pow_mul 2 8 width).symm
    rw [hbytes, hbits, Nat.add_sub_cancel]
    exact Nat.mul_comm _ _
  have hpresent : writeInt width i = .present (bigEndianInt width i.toInt) := by
    rw [writeInt, if_neg (by omega), if_neg (by omega)]
  have hread : ofTwosComplement (bigEndianInt width i.toInt) = i.toInt :=
    ofTwosComplement_bigEndianInt (by rw [hmodulus]; omega) (by rw [hmodulus]; omega)
  have hlength : (bigEndianInt width i.toInt).length = width := length_bigEndian _ _
  rw [hpresent, Written.present, readInt, if_pos hlength, hread, Int64.ofInt_toInt]

/-- A value that is neither null nor a list is read back, or its plain text is. -/
theorem readWhole_write {v : Value} {t : SqlType} (hv : v.IsScalar) (hfits : v.Fits t)
    (h4 : t ≠ .builtin .float4) (h8 : t ≠ .builtin .float8) :
    t.readWhole (v.write t).bytes = some (v.asReceived t) := by
  by_cases ht : t.TakesText
  · rw [write_of_takesText hv ht, asReceived_of_isScalar hv, if_pos ht, readWhole_of_takesText ht]
    exact readText_textBytes t v.plainText
  · rw [asReceived_of_isScalar hv, if_neg ht]
    cases hfits with
    | null | list => exact hv.elim
    | boolText _ h | intText _ h | floatText _ h | text _ h => exact absurd h ht
    | intFloat4 | float4 => exact absurd rfl h4
    | intFloat8 | float8 => exact absurd rfl h8
    | bool b => cases b <;> rfl
    | int2 hlow hhigh => exact readInt_writeInt (by decide) hlow hhigh
    | int4 hlow hhigh => exact readInt_writeInt (by decide) hlow hhigh
    | int8 i => exact readInt_writeInt (by decide) i.le_toInt i.toInt_lt

/-! ## Items -/

/-- Only null is said to be null. -/
theorem eq_null_of_write {v : Value} {t : SqlType} (h : (v.write t).result = .ok .null) :
    v = .null := by
  have htext : ¬ (v.writeAsText t).result = .ok .null := by
    intro hok
    rw [writeAsText] at hok
    split at hok <;> cases hok
  have hint (width : Nat) (i : Int64) : ¬ (writeInt width i).result = .ok .null := by
    intro hok
    rw [writeInt] at hok
    split at hok
    · cases hok
    · split at hok <;> cases hok
  cases v with
  | null => rfl
  | text s => exact absurd h htext
  | bool b =>
    unfold write at h
    split at h
    · cases h
    · exact absurd h htext
  | int i =>
    unfold write at h
    split at h
    iterate 3 exact absurd h (hint _ i)
    iterate 2 cases h
    exact absurd h htext
  | float x =>
    unfold write at h
    split at h
    iterate 2 cases h
    exact absurd h htext
  | list items =>
    unfold write at h
    split at h
    · cases h
    · dsimp only at h
      split at h <;> cases h

/-- An item that is written is null without a length, or stands after the number of its bytes. -/
theorem writeItems_cons {member : SqlType} {v : Value} {rest : List Value} {hasNull : Bool}
    (h : (writeItems member (v :: rest)).result = .ok hasNull) :
    ∃ others, (writeItems member rest).result = .ok others ∧
      ((v = .null ∧ hasNull = true ∧ (writeItems member (v :: rest)).bytes =
          nullLength ++ (writeItems member rest).bytes) ∨
        (v.isNull = false ∧ (v.write member).result = .ok .present ∧ hasNull = others ∧
          (writeItems member (v :: rest)).bytes =
            bigEndian 4 (v.write member).bytes.length ++ (v.write member).bytes ++
              (writeItems member rest).bytes)) := by
  cases hv : (v.write member).result with
  | error fault =>
    rw [writeItems] at h
    simp only [hv] at h
    cases h
  | ok p =>
    cases p with
    | null =>
      have hwritten : writeItems member (v :: rest) =
          ⟨(writeItems member rest).result.map fun _ => true,
            nullLength ++ (writeItems member rest).bytes⟩ := by
        rw [writeItems]
        simp only [hv]
      rw [hwritten] at h ⊢
      obtain ⟨others, hothers, rfl⟩ := map_eq_ok_iff.mp h
      exact ⟨others, hothers, .inl ⟨eq_null_of_write hv, rfl, rfl⟩⟩
    | present =>
      have hwritten : writeItems member (v :: rest) =
          ⟨(writeItems member rest).result, bigEndian 4 (v.write member).bytes.length ++
            (v.write member).bytes ++ (writeItems member rest).bytes⟩ := by
        rw [writeItems]
        simp only [hv]
      rw [hwritten] at h ⊢
      have hnull : v.isNull = false := by
        cases v with
        | null => cases hv
        | bool | int | float | text | list => rfl
      exact ⟨hasNull, h, .inr ⟨hnull, rfl, rfl, rfl⟩⟩

/-- Items are said to have a null among them just if they have one. -/
theorem hasNull_of_writeItems {member : SqlType} {items : List Value} {hasNull : Bool}
    (h : (writeItems member items).result = .ok hasNull) : hasNull = items.any isNull := by
  induction items generalizing hasNull with
  | nil =>
    cases h
    rfl
  | cons v rest ih =>
    obtain ⟨others, hothers, ⟨rfl, rfl, -⟩ | ⟨hnull, -, rfl, -⟩⟩ := writeItems_cons h
    · rfl
    · rw [List.any_cons, hnull, Bool.false_or, ih hothers]

/-- Items take more bytes than there are items, and more than each of them alone. -/
theorem length_of_writeItems {member : SqlType} {items : List Value} {hasNull : Bool}
    (h : (writeItems member items).result = .ok hasNull) :
    items.length ≤ (writeItems member items).bytes.length ∧
      ∀ i ∈ items, (i.write member).bytes.length ≤ (writeItems member items).bytes.length := by
  induction items generalizing hasNull with
  | nil => exact ⟨Nat.zero_le _, nofun⟩
  | cons v rest ih =>
    obtain ⟨others, hothers, hcases⟩ := writeItems_cons h
    obtain ⟨hcount, hitems⟩ := ih hothers
    have hlength : (v.write member).bytes.length + (writeItems member rest).bytes.length + 4 =
        (writeItems member (v :: rest)).bytes.length := by
      rcases hcases with ⟨rfl, -, hbytes⟩ | ⟨-, -, -, hbytes⟩
      · have hnone : (Value.null.write member).bytes = [] := rfl
        have hmark : nullLength.length = 4 := rfl
        rw [hbytes, hnone, List.length_append, hmark, List.length_nil]
        omega
      · rw [hbytes, List.length_append, List.length_append, length_bigEndian]
        omega
    refine ⟨by rw [List.length_cons]; omega, List.forall_mem_cons.mpr ⟨by omega, ?_⟩⟩
    intro i hi
    have hle := hitems i hi
    omega

/-- Items are read one by one as they were written, whatever comes after them. -/
theorem readItems_writeItems {read : List UInt8 → Option Value} {member : SqlType}
    {items : List Value} {hasNull : Bool} (h : (writeItems member items).result = .ok hasNull)
    (hread : ∀ i ∈ items, (i.write member).result = .ok .present →
      read (i.write member).bytes = some (i.asReceived member))
    (hlengths : ∀ i ∈ items, (i.write member).bytes.length < 2147483648) (rest : List UInt8) :
    readItems read items.length ((writeItems member items).bytes ++ rest) =
      some (items.map (asReceived member), rest) := by
  induction items generalizing hasNull with
  | nil => rfl
  | cons v items ih =>
    obtain ⟨hv, hitems⟩ := List.forall_mem_cons.mp hread
    obtain ⟨hlength, hothers⟩ := List.forall_mem_cons.mp hlengths
    obtain ⟨others, hok, hcases⟩ := writeItems_cons h
    have hrest := ih hok hitems hothers
    have hitem : readItem read ((writeItems member (v :: items)).bytes ++ rest) =
        some (v.asReceived member, (writeItems member items).bytes ++ rest) := by
      rcases hcases with ⟨rfl, -, hbytes⟩ | ⟨-, hpresent, -, hbytes⟩
      · rw [hbytes, List.append_assoc, readItem, readSigned_nullLength]
        rfl
      · have hcount : ((v.write member).bytes.length : Int) ≤
            ((v.write member).bytes ++ ((writeItems member items).bytes ++ rest)).length := by
          rw [List.length_append]
          omega
        rw [hbytes, List.append_assoc, List.append_assoc, readItem, readSigned_append hlength]
        simp only [Option.bind_eq_bind, Option.bind_some]
        rw [if_neg (by omega), if_pos ⟨Int.natCast_nonneg _, hcount⟩, Int.toNat_natCast,
          List.take_left, List.drop_left, hv hpresent]
        rfl
    rw [List.length_cons, readItems, hitem]
    simp only [Option.bind_eq_bind, Option.bind_some, hrest]
    rfl

/-! ## Arrays -/

/-- The header of an array is read as what has to come before its items. -/
theorem readHeader_arrayHeader {t member : SqlType} {items : List Value}
    (hcount : items.length < 2147483648) (body : List UInt8) :
    readHeader (arrayHeader t member items.length (items.any isNull) ++ body) =
      some (.of t member items, body) := by
  have hflag : (if items.any isNull then 1 else 0) < 2147483648 := by
    split <;> decide
  have hlower : t.lowerBound < 2147483648 := by
    unfold SqlType.lowerBound
    split <;> decide
  have hbound : (t.lowerBound : Int) = t.firstIndex := by
    cases t with
    | builtin b => cases b <;> rfl
    | custom => rfl
  have hnull : ((if items.any isNull then 1 else 0 : Nat) : Int) =
      (ArrayHeader.of t member items).nullFlag := by
    unfold ArrayHeader.of
    split <;> rfl
  simp only [readHeader, arrayHeader, List.append_assoc, Option.bind_eq_bind, Option.bind_some,
    readSigned_append (n := 1) (by decide), readSigned_append hflag, readSigned_append hcount,
    readSigned_append hlower, readUnsigned_append member.oid.toNat_lt, hbound, hnull]
  rfl

/-- The header of an array is the same for what is sent and for what is received. -/
theorem ArrayHeader.of_map_asReceived (t member : SqlType) (items : List Value) :
    ArrayHeader.of t member (items.map (asReceived member)) = .of t member items := by
  have hany : (items.map (asReceived member)).any isNull = items.any isNull := by
    rw [List.any_map]
    exact congrArg (fun f => items.any f) (funext fun v => isNull_asReceived v member)
  rw [ArrayHeader.of, hany, List.length_map]
  rfl

/-- A list that is written for an array is its header and then its items. -/
theorem write_list_present {items : List Value} {t member : SqlType} {p : Presence}
    (ht : t.member? = some member) (h : ((Value.list items).write t).result = .ok p) :
    p = .present ∧ ∃ hasNull, (writeItems member items).result = .ok hasNull ∧
      ((Value.list items).write t).bytes =
        arrayHeader t member items.length (items.any isNull) ++
          (writeItems member items).bytes := by
  rw [write, ht] at h ⊢
  dsimp only at h ⊢
  cases hbody : (writeItems member items).result with
  | error fault =>
    simp only [hbody] at h
    cases h
  | ok hasNull =>
    simp only [hbody] at h ⊢
    cases h
    rw [← hasNull_of_writeItems hbody]
    exact ⟨rfl, hasNull, rfl, rfl⟩

/-- The items of a list that is within the lengths are so themselves. -/
theorem WithinLengths.item {items : List Value} {t member : SqlType}
    (h : (Value.list items).WithinLengths t) (ht : t.member? = some member)
    {i : Value} (hi : i ∈ items) {p : Presence} (hok : (i.write member).result = .ok p) :
    i.WithinLengths member := by
  intro nested inner hlist hinner
  obtain ⟨-, hitems⟩ := h items member rfl ht
  have hlength := hitems i hi
  subst hlist
  obtain ⟨-, hasNull, hbody, hbytes⟩ := write_list_present hinner hok
  obtain ⟨hcount, hnested⟩ := length_of_writeItems hbody
  rw [hbytes, List.length_append] at hlength
  refine ⟨by omega, fun j hj => ?_⟩
  have hle := hnested j hj
  omega

/-- An array is read as the list that was written for it, if its items are. -/
theorem readArray_write {items : List Value} {t member : SqlType} {p : Presence}
    (ht : t.member? = some member) (h : ((Value.list items).write t).result = .ok p)
    (hv : (Value.list items).WithinLengths t) {read : List UInt8 → Option Value}
    (hread : ∀ i ∈ items, (i.write member).result = .ok .present →
      read (i.write member).bytes = some (i.asReceived member)) :
    readArray t member read ((Value.list items).write t).bytes =
      some ((Value.list items).asReceived t) := by
  obtain ⟨-, hasNull, hbody, hbytes⟩ := write_list_present ht h
  obtain ⟨hcount, hlengths⟩ := hv items member rfl ht
  have hitems := readItems_writeItems hbody hread hlengths []
  rw [List.append_nil] at hitems
  have hstated : (ArrayHeader.of t member items).count.toNat = items.length :=
    Int.toNat_natCast items.length
  have hreceived : (Value.list items).asReceived t = .list (items.map (asReceived member)) := by
    rw [asReceived, ht]
    exact congrArg Value.list (asReceivedItems_eq_map member items)
  rw [hbytes, readArray, readHeader_arrayHeader hcount, hreceived]
  simp only [Option.bind_eq_bind, Option.bind_some, hstated, hitems]
  exact if_pos ⟨(ArrayHeader.of_map_asReceived t member items).symm, trivial⟩

/-! ## All values -/

/-- A value that is no list fits no array, but for arrays that take text. -/
theorem member?_eq_none_of_fits {v : Value} {t : SqlType} (hv : v.IsScalar) (hfits : v.Fits t)
    (ht : ¬ (t.member?.isSome ∧ t.TakesText)) : t.member? = none := by
  cases hfits with
  | null | list => exact hv.elim
  | boolText _ h | intText _ h | floatText _ h | text _ h =>
    exact Option.not_isSome_iff_eq_none.mp fun hmember => ht ⟨hmember, h⟩
  | bool | int2 | int4 | int8 | intFloat4 | intFloat8 | float4 | float8 => rfl

/-- Values are of three sorts. -/
theorem null_or_list_or_isScalar (v : Value) :
    v = .null ∨ (∃ items, v = .list items) ∨ v.IsScalar := by
  cases v with
  | null => exact .inl rfl
  | list items => exact .inr (.inl ⟨items, rfl⟩)
  | bool | int | float | text => exact .inr (.inr trivial)

/-- What has been written of a value for a type is received as the value: an array, to any depth,
with its items under a header that is right for them, and text where the type takes text. Nothing
is left over. -/
theorem receive_write {v : Value} {t : SqlType} {p : Presence} (h : (v.write t).result = .ok p)
    (ht : t.Readable) (hv : v.WithinLengths t) :
    t.receive p (v.write t).bytes = some (v.asReceived t) := by
  induction v using inductionOnItems generalizing t p with
  | h v ih =>
  rcases null_or_list_or_isScalar v with rfl | ⟨items, rfl⟩ | hscalar
  · cases h
    rfl
  · have hfits := exists_write_eq_ok_iff.mp ⟨p, h⟩
    obtain ⟨member, hmember, -⟩ := fits_list_iff.mp hfits
    obtain ⟨rfl, -⟩ := write_list_present hmember h
    rw [SqlType.receive, SqlType.read_of_member hmember]
    exact readArray_write hmember h hv fun i hi hi' =>
      ih items rfl i hi hi' (ht.member hmember) (hv.item hmember hi hi')
  · have hfits := exists_write_eq_ok_iff.mp ⟨p, h⟩
    obtain ⟨h4, h8, htext⟩ := ht t (.self t)
    cases p with
    | null =>
      rw [eq_null_of_write h] at hscalar
      exact hscalar.elim
    | present =>
      rw [SqlType.receive, SqlType.read_of_not_member (member?_eq_none_of_fits hscalar hfits htext)]
      exact readWhole_write hscalar hfits h4 h8

/-- Paths by group. -/
def pathGroups : Value :=
  .list [.list [.text "a.b", .null, .int 7], .null, .list []]

/-- The type of groups of paths, which are sent as text after the number of its format. -/
def pathGroupsType : SqlType :=
  .custom "groups" 70002 "app" (.array
    (.custom "_ltree" 70001 "app" (.array (.custom "ltree" 70000 "app" .simple))))

/-- A number among the paths is received as text, and nulls and empty groups as what they are. -/
theorem receive_write_pathGroups :
    (pathGroups.write pathGroupsType).result = .ok .present ∧ pathGroupsType.Readable ∧
    pathGroups.WithinLengths pathGroupsType ∧
    pathGroupsType.receive .present (pathGroups.write pathGroupsType).bytes =
      some (.list [.list [.text "a.b", .null, .text "7"], .null, .list []]) := by
  have hreadable : pathGroupsType.Readable := by
    intro s hs
    have hcases : s = pathGroupsType ∨ s = .custom "_ltree" 70001 "app" (.array
        (.custom "ltree" 70000 "app" .simple)) ∨ s = .custom "ltree" 70000 "app" .simple := by
      rcases hs with _ | ⟨hgroup, _ | ⟨hpath, _ | ⟨hnone, _⟩⟩⟩
      · exact .inl rfl
      · cases hgroup
        exact .inr (.inl rfl)
      · cases hgroup
        cases hpath
        exact .inr (.inr rfl)
      · cases hgroup
        cases hpath
        cases hnone
    rcases hcases with rfl | rfl | rfl <;> exact ⟨nofun, nofun, by decide⟩
  have hlengths : pathGroups.WithinLengths pathGroupsType := by
    intro items member hitems hmember
    cases hitems
    cases hmember
    decide
  have hwritten : (pathGroups.write pathGroupsType).result = .ok .present := rfl
  exact ⟨hwritten, hreadable, hlengths, receive_write hwritten hreadable hlengths⟩

end Value

end SqlDraft
