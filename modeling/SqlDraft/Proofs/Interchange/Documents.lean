import Mathlib.Data.List.Forall2
import SqlDraft.Proofs.Interchange.Numbers
import SqlDraft.Proofs.Interchange.Texts

/-!
# JSON texts

A JSON value is read from its text, except that a text has no doubles that are not finite, no whole
numbers beyond 64 bits and no two members of one key, and that a reader refuses what nests too deep.
What is read ends where the text of the value does, whatever follows it.
-/

namespace SqlDraft.Json

/-! ## What a text can stand for -/

/-- A JSON value that its text stands for. -/
inductive Writable : Json → Prop
  | null : Writable .null
  | bool (b : Bool) : Writable (.bool b)
  | integer {n : Int} (hl : -2 ^ 63 ≤ n) (hu : n < 2 ^ 64) : Writable (.integer n)
  | float {x : Binary64} (hfinite : x.isFinite = true) : Writable (.float x)
  | string (s : String) : Writable (.string s)
  | array {items : List Json} (h : ∀ j ∈ items, Writable j) : Writable (.array items)
  | object {members : List (String × Json)} (hkeys : (members.map Prod.fst).Nodup)
      (h : ∀ member ∈ members, Writable member.2) : Writable (.object members)

mutual

/-- How deep arrays and objects nest in a value. -/
def depth : Json → Nat
  | .array items => depthOfItems items + 1
  | .object members => depthOfMembers members + 1
  | _ => 0

/-- The greatest depth of the items of an array. -/
def depthOfItems : List Json → Nat
  | [] => 0
  | j :: rest => max (depth j) (depthOfItems rest)

/-- The greatest depth of the members of an object. -/
def depthOfMembers : List (String × Json) → Nat
  | [] => 0
  | (_, j) :: rest => max (depth j) (depthOfMembers rest)

end

/-- No item nests deeper than the items together. -/
theorem depth_le_depthOfItems {items : List Json} {j : Json} (h : j ∈ items) :
    j.depth ≤ depthOfItems items := by
  induction h with
  | head rest => exact le_max_left _ _
  | tail i h ih => exact le_max_of_le_right ih

/-- No member nests deeper than the members together. -/
theorem depth_le_depthOfMembers {members : List (String × Json)} {member : String × Json}
    (h : member ∈ members) : member.2.depth ≤ depthOfMembers members := by
  induction h with
  | head rest => exact le_max_left _ _
  | tail i h ih => exact le_max_of_le_right ih

/-- Items are written one by one. -/
theorem writeItems_eq_map (items : List Json) : writeItems items = items.map write := by
  induction items with
  | nil => rfl
  | cons j rest ih => rw [writeItems, List.map_cons, ih]

/-- The text of a member: its key, a colon and its value. -/
def memberText (member : String × Json) : List Char :=
  (writeText member.1).toList ++ ':' :: member.2.write.toList

/-- Members are written one by one. -/
theorem toList_writeMembers (members : List (String × Json)) :
    (writeMembers members).map String.toList = members.map memberText := by
  induction members with
  | nil => rfl
  | cons member rest ih =>
    obtain ⟨key, j⟩ := member
    rw [writeMembers, List.map_cons, List.map_cons, ih, String.toList_append, String.toList_append,
      List.append_assoc]
    rfl

/-! ## Reading items -/

/-- A text starts with something else than a blank or a closing mark. -/
def Starts (text : List Char) : Prop :=
  ∃ c rest, text = c :: rest ∧ isBlank c = false ∧ c ≠ ']' ∧ c ≠ '\x7d'

/-- A text is read as a value that it stands for, up to its end, whatever follows. -/
structure Reads {α : Type} (read : Reader α) (text : List Char) (a : α) : Prop where
  starts : Starts text
  read : ∀ rest, Follows rest → read (text ++ rest) = some (a, rest)

/-- There are no blanks to skip in front of a text that starts with none. -/
theorem Starts.skipBlanks {text : List Char} (h : Starts text) (rest : List Char) :
    skipBlanks (text ++ rest) = text ++ rest := by
  obtain ⟨c, tail, rfl, hc, -⟩ := h
  rw [List.cons_append, Json.skipBlanks, List.dropWhile_cons, hc]
  rfl

variable {α : Type} {item : Reader α} {close : Char}

/-- A comma may stand behind a value. -/
theorem follows_comma (rest : List Char) : Follows (',' :: rest) := by
  intro c hc
  cases hc
  exact .inl rfl

/-- A closing mark may stand behind a value. -/
theorem follows_close (hclose : close = ']' ∨ close = '\x7d') (rest : List Char) :
    Follows (close :: rest) := by
  intro c hc
  cases hc
  exact .inr hclose

/-- Items between commas start as the first of them does. -/
theorem starts_intercalate {texts : List (List Char)} (hne : texts ≠ [])
    (h : ∀ text ∈ texts, Starts text) : Starts ([','].intercalate texts) := by
  cases texts with
  | nil => exact absurd rfl hne
  | cons text texts =>
    obtain ⟨c, tail, rfl, hc⟩ := h text List.mem_cons_self
    cases texts with
    | nil => exact ⟨c, tail, List.intercalate_singleton, hc⟩
    | cons next texts =>
      rw [List.intercalate_cons_cons]
      exact ⟨c, _, rfl, hc⟩

/-- A mark between values is no blank. -/
theorem skipBlanks_mark {c : Char} (hc : c = ',' ∨ c = ']' ∨ c = '\x7d') (rest : List Char) :
    skipBlanks (c :: rest) = c :: rest := by
  rcases hc with rfl | rfl | rfl <;> rfl

/-- Texts that are read start with something to read. -/
theorem starts_of_reads {texts : List (List Char)} {items : List α}
    (h : List.Forall₂ (Reads item) texts items) : ∀ text ∈ texts, Starts text := by
  induction h with
  | nil => exact nofun
  | cons hread _ ih => exact List.forall_mem_cons.mpr ⟨hread.starts, ih⟩

/-- Items between commas are read one by one. -/
theorem readItemsFrom_intercalate (hclose : close = ']' ∨ close = '\x7d')
    {texts : List (List Char)} {items : List α} (h : List.Forall₂ (Reads item) texts items)
    (hne : items ≠ []) (before : List α) {most : Nat} (hmost : items.length ≤ most)
    (rest : List Char) :
    readItemsFrom item close before most ([','].intercalate texts ++ close :: rest) =
      some (before.reverse ++ items, rest) := by
  induction h generalizing before most with
  | nil => exact absurd rfl hne
  | @cons text a texts items hread hrest ih =>
    obtain ⟨most, rfl⟩ : ∃ m, most = m + 1 := ⟨most - 1, by rw [List.length_cons] at hmost; omega⟩
    cases hrest with
    | nil =>
      rw [List.intercalate_singleton, readItemsFrom, hread.read _ (follows_close hclose rest)]
      simp only [Option.bind_eq_bind, Option.bind_some, skipBlanks_mark (.inr hclose)]
      rcases hclose with rfl | rfl <;> simp
    | @cons next b texts items hnext hrest =>
      have hrests : List.Forall₂ (Reads item) (next :: texts) (b :: items) := .cons hnext hrest
      have hstarts := starts_intercalate (List.cons_ne_nil _ _) (starts_of_reads hrests)
      have hlength : (b :: items).length ≤ most := Nat.le_of_succ_le_succ hmost
      rw [List.intercalate_cons_cons, List.append_assoc, List.append_assoc, List.singleton_append,
        readItemsFrom, hread.read _ (follows_comma _)]
      simp only [Option.bind_eq_bind, Option.bind_some, skipBlanks_mark (.inl rfl),
        hstarts.skipBlanks, ih (List.cons_ne_nil _ _) (a :: before) hlength, List.reverse_cons,
        List.append_assoc, List.singleton_append]

/-- Items between commas are read up to the closing mark, also if there are none. -/
theorem readItems_intercalate (hclose : close = ']' ∨ close = '\x7d') {texts : List (List Char)}
    {items : List α} (h : List.Forall₂ (Reads item) texts items) {most : Nat}
    (hmost : items.length ≤ most) (rest : List Char) :
    readItems item close most ([','].intercalate texts ++ close :: rest) = some (items, rest) := by
  cases h with
  | nil =>
    rw [List.intercalate_nil, List.nil_append, readItems, skipBlanks_mark (.inr hclose)]
    exact if_pos rfl
  | @cons text a texts items hread hrest =>
    have hreads : List.Forall₂ (Reads item) (text :: texts) (a :: items) := .cons hread hrest
    have hstarts := starts_intercalate (List.cons_ne_nil _ _) (starts_of_reads hreads)
    have hfrom := readItemsFrom_intercalate hclose hreads (List.cons_ne_nil _ _) [] hmost rest
    rw [readItems, hstarts.skipBlanks]
    obtain ⟨c, tail, htext, -, hbracket, hbrace⟩ := hstarts
    rw [htext] at hfrom ⊢
    have hc : c ≠ close := by rcases hclose with rfl | rfl <;> assumption
    exact (if_neg hc).trans hfrom

/-! ## Reading a value -/

/-- A member is read from its text if its value is. -/
theorem reads_member {value : Reader Json} {member : String × Json}
    (h : Reads value member.2.write.toList member.2) :
    Reads (readMember value) (memberText member) member where
  starts := by
    rw [memberText, toList_writeText]
    exact ⟨'"', _, rfl, rfl, by decide, by decide⟩
  read rest hrest := by
    have hcolon : skipBlanks (':' :: (member.2.write.toList ++ rest)) =
        ':' :: (member.2.write.toList ++ rest) := rfl
    rw [memberText, List.append_assoc, List.cons_append, readMember, readText_writeText]
    simp only [Option.bind_eq_bind, Option.bind_some, hcolon, h.starts.skipBlanks,
      h.read rest hrest]

/-- What is neither array nor object is read alike at every depth. -/
theorem reads_of_scalar {text : List Char} {j : Json} (h : Reads readScalar text j)
    (harray : text.head? ≠ some '[') (hobject : text.head? ≠ some '\x7b') (most depth : Nat) :
    Reads (readValue most depth) text j where
  starts := h.starts
  read rest hrest := by
    obtain ⟨c, tail, rfl, -⟩ := h.starts
    rw [← h.read rest hrest, List.cons_append]
    cases depth with
    | zero => rfl
    | succ depth =>
      rw [readValue]
      · rintro s hs
        exact harray (congrArg List.head? hs)
      · rintro s hs
        exact hobject (congrArg List.head? hs)

/-- The characters that begin what is no number, that end a value or that stand between tokens. -/
def marks : List Char := ['n', 't', 'f', '"', '[', '\x7b', ']', '\x7d', ' ', '\t', '\n', '\r']

/-- A number begins with none of the characters that begin something else. -/
theorem not_mem_marks {c : Char} (hc : c = '-' ∨ c.isDigit = true) : c ∉ marks := by
  rcases hc with rfl | hdigit
  · decide
  · have hmarks : marks.all (fun mark => !mark.isDigit) = true := rfl
    intro hmem
    have hno := List.all_eq_true.mp hmarks c hmem
    rw [hdigit] at hno
    cases hno

/-- What is none of the characters differs from each of them. -/
theorem ne_of_not_mem_marks {c : Char} (hc : c ∉ marks) {mark : Char} (hmark : mark ∈ marks) :
    c ≠ mark :=
  fun h => hc (h ▸ hmark)

/-- A number is read from its parts. -/
theorem reads_numeral {n : Numeral} (hn : n.WellFormed)
    (hfinite : ∀ x, n.value = .float x → x.isFinite = true) (most depth : Nat) :
    Reads (readValue most depth) n.text n.value := by
  obtain ⟨c, tail, htext, hc⟩ := Numeral.exists_text_eq hn
  have hne {mark : Char} (hmark : mark ∈ marks) : c ≠ mark :=
    ne_of_not_mem_marks (not_mem_marks hc) hmark
  have hscalar : ∀ rest, readScalar (n.text ++ rest) = readNumber (n.text ++ rest) := by
    intro rest
    rw [htext, List.cons_append]
    unfold readScalar
    split
    · next h => exact absurd (List.cons.inj h).1 (hne (by decide))
    · next h => exact absurd (List.cons.inj h).1 (hne (by decide))
    · next h => exact absurd (List.cons.inj h).1 (hne (by decide))
    · next h => exact absurd (List.cons.inj h).1 (hne (by decide))
    · rfl
  have hblank : isBlank c = false := by
    simp only [isBlank, Bool.or_eq_false_iff, decide_eq_false_iff_not]
    exact ⟨⟨⟨hne (by decide), hne (by decide)⟩, hne (by decide)⟩, hne (by decide)⟩
  have hreads : Reads readScalar n.text n.value :=
    { starts := ⟨c, tail, htext, hblank, hne (by decide), hne (by decide)⟩
      read := fun rest hrest => by rw [hscalar, Numeral.readNumber_text hn hfinite hrest] }
  refine reads_of_scalar hreads ?_ ?_ most depth <;> rw [htext, List.head?_cons]
  · exact fun h => hne (by decide) (Option.some.inj h)
  · exact fun h => hne (by decide) (Option.some.inj h)

/-- A text literal is read as its text. -/
theorem reads_text (s : String) (most depth : Nat) :
    Reads (readValue most depth) (writeText s).toList (.string s) := by
  have hreads : Reads readScalar (writeText s).toList (.string s) :=
    { starts := by
        rw [toList_writeText]
        exact ⟨'"', _, rfl, by decide⟩
      read := fun rest _ => by
        have htext := readText_writeText s rest
        rw [toList_writeText, List.cons_append] at htext ⊢
        exact congrArg (Option.map _) htext }
  refine reads_of_scalar hreads ?_ ?_ most depth <;> rw [toList_writeText] <;> simp

/-! ## Arrays and objects -/

/-- An item is no longer than the text of all items. -/
theorem length_le_intercalate {texts : List (List Char)} {text : List Char} (h : text ∈ texts) :
    text.length ≤ ([','].intercalate texts).length := by
  induction texts with
  | nil => exact absurd h List.not_mem_nil
  | cons first texts ih =>
    cases texts with
    | nil => rw [List.intercalate_singleton, List.mem_singleton.mp h]
    | cons next texts =>
      rw [List.intercalate_cons_cons, List.length_append, List.length_append]
      rcases List.mem_cons.mp h with rfl | h
      · omega
      · have hle := ih h
        omega

/-- Between commas there are no more items than there are characters, and one. -/
theorem length_le_length_intercalate (texts : List (List Char)) :
    texts.length ≤ ([','].intercalate texts).length + 1 := by
  induction texts with
  | nil => exact Nat.zero_le _
  | cons first texts ih =>
    cases texts with
    | nil => exact Nat.le_add_left _ _
    | cons next texts =>
      rw [List.intercalate_cons_cons, List.length_append, List.length_append, List.length_cons,
        List.length_singleton]
      omega

/-- The text of an array is those of its items between commas, in brackets. -/
theorem toList_writeArray (items : List Json) : (write (.array items)).toList =
    '[' :: ([','].intercalate (items.map fun j => j.write.toList) ++ [']']) := by
  rw [write, writeItems_eq_map, String.toList_append, String.toList_append,
    String.toList_intercalate, List.map_map]
  rfl

/-- The text of an object is those of its members between commas, in braces. -/
theorem toList_writeObject (members : List (String × Json)) : (write (.object members)).toList =
    '\x7b' :: ([','].intercalate (members.map memberText) ++ ['\x7d']) := by
  rw [write, String.toList_append, String.toList_append, String.toList_intercalate,
    toList_writeMembers]
  rfl

/-- A value that a text can stand for is read from its text. -/
theorem reads_write {j : Json} (hj : j.Writable) {depth most : Nat} (hdepth : j.depth ≤ depth)
    (hmost : j.write.toList.length ≤ most) : Reads (readValue most depth) j.write.toList j := by
  induction hj generalizing depth most with
  | null => exact reads_of_scalar ⟨⟨'n', _, rfl, by decide⟩, fun _ _ => rfl⟩ (by decide) (by decide) _ _
  | bool b =>
    cases b with
    | false =>
      exact reads_of_scalar ⟨⟨'f', _, rfl, by decide⟩, fun _ _ => rfl⟩ (by decide) (by decide) _ _
    | true =>
      exact reads_of_scalar ⟨⟨'t', _, rfl, by decide⟩, fun _ _ => rfl⟩ (by decide) (by decide) _ _
  | @integer n hl hu =>
    have hvalue := Numeral.value_ofInt hl hu
    rw [write, Numeral.text_ofInt, ← hvalue]
    refine reads_numeral (Numeral.wellFormed_ofInt n) (fun x hx => ?_) most depth
    rw [hvalue] at hx
    cases hx
  | @float x hfinite =>
    obtain ⟨n, hn, hvalue, htext⟩ := exists_writeNumber hfinite
    rw [write, if_pos hfinite, ← htext, ← hvalue]
    refine reads_numeral hn (fun y hy => ?_) most depth
    rw [hvalue] at hy
    cases hy
    exact hfinite
  | string s => exact reads_text s most depth
  | @array items h ih =>
    rw [toList_writeArray] at hmost ⊢
    rw [List.length_cons, List.length_append, List.length_singleton] at hmost
    obtain ⟨depth, rfl⟩ : ∃ d, depth = d + 1 := ⟨depth - 1, by rw [Json.depth] at hdepth; omega⟩
    have hitems : List.Forall₂ (Reads (readValue most depth))
        (items.map fun j => j.write.toList) items := by
      rw [List.forall₂_map_left_iff, List.forall₂_same]
      intro j hj
      have hlength := length_le_intercalate (List.mem_map_of_mem (f := fun j => j.write.toList) hj)
      exact ih j hj ((depth_le_depthOfItems hj).trans (Nat.le_of_succ_le_succ hdepth)) (by omega)
    have hlength := length_le_length_intercalate (items.map fun j => j.write.toList)
    rw [List.length_map] at hlength
    refine ⟨⟨'[', _, rfl, by decide⟩, fun rest _ => ?_⟩
    rw [List.cons_append, List.append_assoc, List.singleton_append, readValue,
      readItems_intercalate (.inl rfl) hitems (by omega)]
    rfl
  | @object members hkeys h ih =>
    rw [toList_writeObject] at hmost ⊢
    rw [List.length_cons, List.length_append, List.length_singleton] at hmost
    obtain ⟨depth, rfl⟩ : ∃ d, depth = d + 1 := ⟨depth - 1, by rw [Json.depth] at hdepth; omega⟩
    have hmembers : List.Forall₂ (Reads (readMember (readValue most depth)))
        (members.map memberText) members := by
      rw [List.forall₂_map_left_iff, List.forall₂_same]
      intro member hmember
      have hlength := length_le_intercalate (List.mem_map_of_mem (f := memberText) hmember)
      have hvalue : member.2.write.toList.length ≤ (memberText member).length := by
        rw [memberText, List.length_append, List.length_cons]
        omega
      have hle := (depth_le_depthOfMembers hmember).trans (Nat.le_of_succ_le_succ hdepth)
      exact reads_member (ih member hmember hle (by omega))
    have hlength := length_le_length_intercalate (members.map memberText)
    rw [List.length_map] at hlength
    refine ⟨⟨'\x7b', _, rfl, by decide⟩, fun rest _ => ?_⟩
    rw [List.cons_append, List.append_assoc, List.singleton_append, readValue,
      readItems_intercalate (.inr rfl) hmembers (by omega)]
    have hentries : (Keyed.ofList members).entries = members :=
      Keyed.entries_insertAll_of_nodup .empty hkeys
    exact congrArg (fun entries => some (Json.object entries, rest)) hentries

/-- A value that a text can stand for, and that does not nest too deep, is the value of its text. -/
theorem read?_write {j : Json} (hj : j.Writable) (hdepth : j.depth ≤ nestingLimit) :
    read? j.write = some j := by
  have hreads := reads_write hj hdepth (le_refl j.write.toList.length)
  have hread := hreads.read [] follows_nil
  have hskip := hreads.starts.skipBlanks []
  rw [List.append_nil] at hread hskip
  rw [read?, readNested?, readPrefix?, hskip, ← String.length_toList, hread]
  rfl

end SqlDraft.Json
