import SqlDraft.Writer

/-!
# Words and where they end

The text of a statement is made of words with delimiters between them. A word ends at the next
delimiter, so that a word and what comes after it are read off their common text in one way only.
The same is then said of whatever is written with words.
-/

namespace SqlDraft

/-- The characters that stand between words. -/
def isDelimiter (c : Char) : Bool := c = ' ' || c = ',' || c = '(' || c = ')'

/-- A text without delimiters. -/
def IsWord (w : String) : Prop := w.toList.any isDelimiter = false

instance (w : String) : Decidable (IsWord w) := inferInstanceAs (Decidable (_ = false))

/-- A text that does not go on with a word. -/
def Bounded (s : String) : Prop := s.toList.head?.all isDelimiter = true

instance (s : String) : Decidable (Bounded s) := inferInstanceAs (Decidable (_ = true))

/-- A text begins with another one. -/
def StartsWith (start s : String) : Prop := ∃ rest, s = start ++ rest

/-- Two texts with different characters at a place that both of them have. -/
def Clash (s t : String) : Prop := ((s.toList.zip t.toList).any fun (c, d) => c != d) = true

instance (s t : String) : Decidable (Clash s t) := inferInstanceAs (Decidable (_ = true))

/-- How some things are written says which of them is meant and where its text ends, if what comes
after it ends a word. -/
def ReadsOff {α : Type} (p : α → Prop) (text : α → String) : Prop :=
  ∀ a b s t, p a → p b → Bounded s → Bounded t → text a ++ s = text b ++ t → a = b ∧ s = t

/-! ## Texts that end a word -/

/-- The end of a text ends a word. -/
theorem bounded_empty : Bounded "" := by decide

/-- What begins with a delimiter ends a word. -/
theorem bounded_append {start : String} (h : start.toList.head?.any isDelimiter = true)
    (s : String) : Bounded (start ++ s) := by
  rw [Bounded, String.toList_append]
  cases hchars : start.toList with
  | nil =>
    rw [hchars] at h
    exact absurd h Bool.false_ne_true
  | cons c rest =>
    rw [hchars] at h
    exact h

/-- A space ends a word. -/
theorem bounded_space (s : String) : Bounded (" " ++ s) := bounded_append (by decide) s

/-- A comma ends a word. -/
theorem bounded_comma (s : String) : Bounded (", " ++ s) := bounded_append (by decide) s

/-- An opening parenthesis ends a word. -/
theorem bounded_open (s : String) : Bounded ("(" ++ s) := bounded_append (by decide) s

/-- A closing parenthesis ends a word. -/
theorem bounded_close (s : String) : Bounded (")" ++ s) := bounded_append (by decide) s

private theorem eq_of_mem_zip {cs ds xs ys : List Char} (h : cs ++ xs = ds ++ ys) :
    ∀ pair ∈ cs.zip ds, pair.1 = pair.2 := by
  induction cs generalizing ds with
  | nil => exact fun pair hpair => absurd hpair List.not_mem_nil
  | cons c cs ih =>
    cases ds with
    | nil => exact fun pair hpair => absurd hpair List.not_mem_nil
    | cons d ds =>
      obtain ⟨hcd, hrest⟩ := List.cons.inj h
      exact List.forall_mem_cons.mpr ⟨hcd, ih hrest⟩

/-- No text begins with two texts that clash. -/
theorem Clash.not_startsWith {start other : String} (h : Clash start other) (s : String) :
    ¬ StartsWith start (other ++ s) := by
  rintro ⟨rest, hrest⟩
  have hchars : start.toList ++ rest.toList = other.toList ++ s.toList := by
    rw [← String.toList_append, ← hrest, String.toList_append]
  obtain ⟨pair, hmem, hne⟩ := List.any_eq_true.mp h
  exact bne_iff_ne.mp hne (eq_of_mem_zip hchars pair hmem)

/-- Nothing but the empty text begins where a text ends. -/
theorem not_startsWith_empty {start : String} (h : start ≠ "") : ¬ StartsWith start "" := by
  rintro ⟨rest, hrest⟩
  exact h (String.append_eq_empty_iff.mp hrest.symm).1

/-- The empty text has no delimiters. -/
theorem isWord_empty : IsWord "" := by decide

/-- A word has no delimiter among its characters. -/
theorem isWord_iff {w : String} : IsWord w ↔ ∀ c ∈ w.toList, isDelimiter c = false := by
  simp only [IsWord, List.any_eq_false, Bool.not_eq_true]

/-- A word is all of a text up to the first delimiter. -/
private theorem takeWhile_word {w s : String} (hw : IsWord w) (hs : Bounded s) :
    (w ++ s).toList.takeWhile (fun c => !isDelimiter c) = w.toList := by
  rw [String.toList_append, List.takeWhile_append_of_pos]
  · cases hd : s.toList with
    | nil => rw [List.takeWhile_nil, List.append_nil]
    | cons c rest =>
      have hc : isDelimiter c = true := by
        rw [Bounded, hd] at hs
        exact hs
      rw [List.takeWhile_cons, hc]
      exact List.append_nil _
  · intro c hc
    rw [isWord_iff.mp hw c hc]
    rfl

/-- Two words, each before the end of a word, are the same if their texts go on to the same. -/
theorem IsWord.append_inj {w w' s s' : String} (hw : IsWord w) (hw' : IsWord w') (hs : Bounded s)
    (hs' : Bounded s') (h : w ++ s = w' ++ s') : w = w' ∧ s = s' := by
  have heq : w = w' := by
    apply String.toList_inj.mp
    rw [← takeWhile_word hw hs, h, takeWhile_word hw' hs']
  subst heq
  exact ⟨rfl, (String.append_right_inj w).mp h⟩

/-- No text begins with a word that is not empty and with a delimiter. -/
theorem IsWord.append_ne_open {w s t : String} (hw : IsWord w) (hne : w ≠ "") (hs : Bounded s) :
    w ++ s ≠ "(" ++ t := by
  intro h
  rw [← String.empty_append (s := "(" ++ t)] at h
  exact hne (hw.append_inj isWord_empty hs (bounded_open t) h).1

/-! ## Names -/

/-- Letters, digits, the underscore and the point. -/
def isNameChar (c : Char) : Bool := c.isAlphanum || c = '_' || c = '.'

/-- A name that needs no quoting: characters of names only, and none of the reserved words. -/
def IsPlain (reserved : List String) (name : String) : Prop :=
  name ≠ "" ∧ name.toList.all isNameChar = true ∧ name ∉ reserved

instance (reserved : List String) (name : String) : Decidable (IsPlain reserved name) :=
  inferInstanceAs (Decidable (_ ∧ _ ∧ _))

/-- No name has a delimiter in it. -/
theorem not_isDelimiter_of_isNameChar {c : Char} (h : isNameChar c = true) :
    isDelimiter c = false := by
  cases hd : isDelimiter c with
  | false => rfl
  | true =>
    simp only [isDelimiter, Bool.or_eq_true, decide_eq_true_eq] at hd
    rcases hd with ((rfl | rfl) | rfl) | rfl <;> exact absurd h (by decide)

/-- A plain name is a word. -/
theorem IsPlain.isWord {reserved : List String} {name : String} (h : IsPlain reserved name) :
    IsWord name :=
  isWord_iff.mpr fun c hc => not_isDelimiter_of_isNameChar (List.all_eq_true.mp h.2.1 c hc)

/-- Fewer reserved words leave more names plain. -/
theorem IsPlain.mono {reserved fewer : List String} {name : String} (h : IsPlain reserved name)
    (hsub : fewer ⊆ reserved) : IsPlain fewer name :=
  ⟨h.1, h.2.1, fun hm => h.2.2 (hsub hm)⟩

/-! ## Placeholders -/

/-- A placeholder is a word. -/
theorem isWord_placeholder (n : Nat) : IsWord (placeholder n) := by
  rw [isWord_iff]
  intro c hc
  rw [placeholder, String.toList_append, List.mem_append] at hc
  rcases hc with hc | hc
  · obtain rfl : c = '$' := by simpa using hc
    decide
  · rw [Nat.toList_repr] at hc
    apply not_isDelimiter_of_isNameChar
    have hdigit := Nat.isDigit_of_mem_toDigits (by decide) (by decide) hc
    simp only [isNameChar, Char.isAlphanum, hdigit, Bool.or_true, Bool.true_or]

/-- The number of a placeholder is read off its digits. -/
theorem placeholder_injective {m n : Nat} (h : placeholder m = placeholder n) : m = n := by
  have hrepr : m.repr = n.repr := (String.append_right_inj "$").mp h
  have hdigits : Nat.toDigits 10 m = Nat.toDigits 10 n := by
    rw [← Nat.toList_repr, hrepr, Nat.toList_repr]
  rw [← Nat.ofDigitChars_ten_toDigits (n := m), hdigits, Nat.ofDigitChars_ten_toDigits]

/-- Placeholders are read off. -/
theorem readsOff_placeholder : ReadsOff (fun _ => True) placeholder := by
  intro m n s t _ _ hs ht h
  obtain ⟨hp, hst⟩ := (isWord_placeholder m).append_inj (isWord_placeholder n) hs ht h
  exact ⟨placeholder_injective hp, hst⟩

/-! ## Lists -/

/-- Words are read off. -/
theorem readsOff_word : ReadsOff IsWord id := by
  intro v w s t hv hw hs ht h
  exact hv.append_inj hw hs ht h

/-- The items of a list and what comes after it are read off if each item is, and if the separator
does not come after the list. -/
theorem ReadsOff.separated {α : Type} {p : α → Prop} {text : α → String} (h : ReadsOff p text)
    {separator : String} (hsep : ∀ s, Bounded (separator ++ s)) {as bs : List α} {s t : String}
    (has : as ≠ []) (hbs : bs ≠ []) (hp : ∀ a ∈ as, p a) (hp' : ∀ b ∈ bs, p b) (hs : Bounded s)
    (hs' : ¬ StartsWith separator s) (ht : Bounded t) (ht' : ¬ StartsWith separator t)
    (heq : separator.intercalate (as.map text) ++ s = separator.intercalate (bs.map text) ++ t) :
    as = bs ∧ s = t := by
  induction as generalizing bs with
  | nil => exact absurd rfl has
  | cons a as ih =>
    cases bs with
    | nil => exact absurd rfl hbs
    | cons b bs =>
      have ha := hp a List.mem_cons_self
      have hb := hp' b List.mem_cons_self
      cases as with
      | nil =>
        cases bs with
        | nil =>
          simp only [List.map_cons, List.map_nil, String.intercalate_singleton] at heq
          obtain ⟨rfl, hst⟩ := h a b s t ha hb hs ht heq
          exact ⟨rfl, hst⟩
        | cons b' bs =>
          simp only [List.map_cons, List.map_nil, String.intercalate_singleton,
            String.intercalate_cons_cons, String.append_assoc] at heq
          exact absurd ⟨_, (h a b _ _ ha hb hs (hsep _) heq).2⟩ hs'
      | cons a' as =>
        cases bs with
        | nil =>
          simp only [List.map_cons, List.map_nil, String.intercalate_singleton,
            String.intercalate_cons_cons, String.append_assoc] at heq
          exact absurd ⟨_, (h a b _ _ ha hb (hsep _) ht heq).2.symm⟩ ht'
        | cons b' bs =>
          simp only [List.map_cons, String.intercalate_cons_cons, String.append_assoc] at heq
          obtain ⟨rfl, hrest⟩ := h a b _ _ ha hb (hsep _) (hsep _) heq
          have hrest := (String.append_right_inj separator).mp hrest
          obtain ⟨has, hst⟩ := ih (List.cons_ne_nil a' as) (List.cons_ne_nil b' bs)
            (fun c hc => hp c (List.mem_cons_of_mem a hc))
            (fun c hc => hp' c (List.mem_cons_of_mem a hc)) hrest
          exact ⟨congrArg (a :: ·) has, hst⟩

end SqlDraft
