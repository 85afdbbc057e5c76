import PostalAddress.Proofs.Abbreviation
import PostalAddress.Proofs.JoinedHalves
import PostalAddress.Standard

/-!
Canonical values and written ZIP codes are put in uppercase when they are made again, and stay as
they are otherwise. A canonical value is in normal form, depends only on the trimmed value and on
its uppercase, and is empty for a blank one.
-/

namespace PostalAddress

namespace Component

variable (component : Component)

theorem table_listed (table : AbbreviationTable)
    (given : component.table? = some table) : table ∈ [suffixes, directionals, states, units] := by
  cases component <;> cases given <;> simp

theorem table_closed (table : AbbreviationTable)
    (given : component.table? = some table) : table.IsClosed :=
  AbbreviationTable.listed_closed table (component.table_listed table given)

theorem canonical_of_table (table : AbbreviationTable)
    (given : component.table? = some table) (value : Text) :
    component.canonical value = table.lookup value := by
  cases value with
  | nil =>
      rw [AbbreviationTable.lookup, normalize_nil, (component.table_closed table given).named]
      rfl
  | cons head rest => simp [canonical, given]

theorem canonical_of_no_table (given : component.table? = none) (value : Text) :
    component.canonical value = normalize value := by
  cases value with
  | nil => rfl
  | cons head rest => simp [canonical, given]

theorem canonical_normal (value : Text) :
    IsNormal (component.canonical value) := by
  cases given : component.table? with
  | none =>
      rw [component.canonical_of_no_table given]
      exact normalize_normal value
  | some table =>
      rw [component.canonical_of_table table given]
      exact (component.table_closed table given).lookup_normal value

theorem canonical_congr (left right : Text) (same : normalize left = normalize right) :
    component.canonical left = component.canonical right := by
  cases given : component.table? with
  | none => rw [component.canonical_of_no_table given, component.canonical_of_no_table given, same]
  | some table =>
      rw [component.canonical_of_table table given, component.canonical_of_table table given,
        AbbreviationTable.lookup, AbbreviationTable.lookup, same]

theorem canonical_trim (value : Text) :
    component.canonical value.trim = component.canonical value :=
  component.canonical_congr _ _ (normalize_trim value)

theorem canonical_is_upper (value : Text) (apart : ¬JoinsHalves value) :
    (component.canonical value).IsUpper := by
  have normal := (normalize_is_upper_iff value).2 apart
  cases given : component.table? with
  | none => rwa [component.canonical_of_no_table given]
  | some table =>
      rw [component.canonical_of_table table given, AbbreviationTable.lookup]
      cases found : table.short? (normalize value) with
      | none => exact normal
      | some short =>
          exact plain_upper short ((component.table_closed table given).short_short _ short found).1

/-- A value that is canonical but for letters in lower case. -/
structure IsCanonical (value : Text) : Prop where
  normal : IsNormal value
  again : component.canonical value = value.upper

theorem canonical_canonical (value : Text) : component.IsCanonical (component.canonical value) where
  normal := component.canonical_normal value
  again := by
    cases given : component.table? with
    | none =>
        rw [component.canonical_of_no_table given, component.canonical_of_no_table given,
          normalize_normalize]
    | some table =>
        rw [component.canonical_of_table table given, component.canonical_of_table table given,
          (component.table_closed table given).lookup_lookup]

theorem canonical_of_normal (value : Text) (normal : IsNormal value)
    (tableless : component.table? = none) : component.IsCanonical value where
  normal := normal
  again := by rw [component.canonical_of_no_table tableless, normal.normalize_eq_upper]

theorem canonical_of_fixed (value : Text) (fixed : normalize value = value)
    (tableless : component.table? = none) : component.canonical value = value := by
  rw [component.canonical_of_no_table tableless, fixed]

theorem canonical_nil : component.canonical [] = [] := rfl

end Component

theorem digit_plain (letter : Char) (digit : isDigit letter = true) : isPlain letter = true := by
  rw [isDigit] at digit
  simp [isPlain, digit]

theorem is_digits_iff (count : Nat) (text : Text) :
    isDigits count text = true ↔
      text.length = count ∧ ∀ letter ∈ text, isDigit letter = true := by
  simp [isDigits]

/-- Five digits, a gap without digits, and four digits. -/
structure IsNineDigits (value zone gap addOn : Text) : Prop where
  parted : value = zone ++ (gap ++ addOn)
  zoneDigits : isDigits 5 zone = true
  digitless : ∀ letter ∈ gap, isDigit letter = false
  addOnDigits : isDigits 4 addOn = true

theorem drop_digitless (gap : Text) (digitless : ∀ letter ∈ gap, isDigit letter = false)
    (count : Nat) (text : Text) (digits : isDigits count text = true) :
    (gap ++ text).dropWhile (fun letter => !isDigit letter) = text := by
  apply Text.drop_while_append
  · intro letter member
    simp [digitless letter member]
  · intro letter first
    simp [((is_digits_iff count text).1 digits).2 letter (List.mem_of_head? first)]

theorem nine_digits_eq_some_iff (value zone addOn : Text) :
    nineDigits? value = some (zone, addOn) ↔ ∃ gap, IsNineDigits value zone gap addOn := by
  rw [nineDigits?, Option.ite_none_right_eq_some, Bool.and_eq_true]
  constructor
  · rintro ⟨⟨zoneDigits, addOnDigits⟩, same⟩
    cases same
    refine ⟨(value.drop 5).takeWhile fun letter => !isDigit letter, ?_, zoneDigits, ?_,
      addOnDigits⟩
    · rw [List.takeWhile_append_dropWhile, List.take_append_drop]
    · intro letter member
      simpa using List.mem_takeWhile_imp member
  · rintro ⟨gap, nine⟩
    have size := ((is_digits_iff 5 zone).1 nine.zoneDigits).1
    have front : value.take 5 = zone := by rw [nine.parted, ← size, List.take_left]
    have behind : value.drop 5 = gap ++ addOn := by rw [nine.parted, ← size, List.drop_left]
    rw [front, behind, drop_digitless gap nine.digitless 4 addOn nine.addOnDigits]
    exact ⟨⟨nine.zoneDigits, nine.addOnDigits⟩, rfl⟩

theorem nine_digits_hyphened (zone addOn : Text) (zoneDigits : isDigits 5 zone = true)
    (addOnDigits : isDigits 4 addOn = true) :
    IsNineDigits (zone ++ '-' :: addOn) zone ['-'] addOn :=
  ⟨rfl, zoneDigits, List.forall_mem_singleton.2 (by decide), addOnDigits⟩

theorem write_nine_digits (value zone gap addOn : Text)
    (nine : IsNineDigits (normalize value) zone gap addOn) :
    writeZipCode value = zone ++ '-' :: addOn := by
  rw [writeZipCode, (nine_digits_eq_some_iff _ zone addOn).2 ⟨gap, nine⟩]

theorem hyphened_plain (zone addOn : Text) (zoneDigits : isDigits 5 zone = true)
    (addOnDigits : isDigits 4 addOn = true) :
    ∀ letter ∈ zone ++ '-' :: addOn, isPlain letter = true := by
  intro letter member
  rcases List.mem_append.1 member with inZone | behind
  · exact digit_plain letter (((is_digits_iff 5 zone).1 zoneDigits).2 letter inZone)
  · rcases List.mem_cons.1 behind with rfl | inAddOn
    · decide
    · exact digit_plain letter (((is_digits_iff 4 addOn).1 addOnDigits).2 letter inAddOn)

theorem write_zip_code_normal (value : Text) : IsNormal (writeZipCode value) := by
  rw [writeZipCode]
  split
  case h_1 zone addOn nine =>
    obtain ⟨_, nine⟩ := (nine_digits_eq_some_iff _ zone addOn).1 nine
    exact plain_normal _ (hyphened_plain zone addOn nine.zoneDigits nine.addOnDigits)
  case h_2 => exact normalize_normal value

theorem write_zip_code_is_upper (value : Text) (apart : ¬JoinsHalves value) :
    (writeZipCode value).IsUpper := by
  rw [writeZipCode]
  split
  case h_1 zone addOn nine =>
    obtain ⟨_, nine⟩ := (nine_digits_eq_some_iff _ zone addOn).1 nine
    exact plain_upper _ (hyphened_plain zone addOn nine.zoneDigits nine.addOnDigits)
  case h_2 => exact (normalize_is_upper_iff value).2 apart

theorem write_zip_code_ne_nil (value : Text) (given : normalize value ≠ []) :
    writeZipCode value ≠ [] := by
  rw [writeZipCode]
  split
  case h_1 => simp
  case h_2 => exact given

theorem write_zip_code_upper (value : Text) : writeZipCode value.upper = writeZipCode value := by
  rw [writeZipCode, normalize_upper]
  rfl

theorem half_no_digit (unit : Char) (half : Text.isHalf unit = true) : isDigit unit = false := by
  by_contra digit
  rw [plain_no_half unit (digit_plain unit (by simpa using digit))] at half
  cases half

theorem nine_digits_map (map : Char → Char)
    (digits : ∀ letter, isDigit letter = true → map letter = letter)
    (others : ∀ letter, isDigit (map letter) = isDigit letter) (value : Text) :
    nineDigits? (value.map map) = nineDigits? value := by
  have kept (count : Nat) (text : Text) (allDigits : isDigits count text = true) :
      text.map map = text := by
    rw [is_digits_iff] at allDigits
    calc
      text.map map = text.map id :=
        List.map_congr_left fun letter member => digits letter (allDigits.2 letter member)
      _ = text := List.map_id text
  have counted (count : Nat) (text : Text) :
      isDigits count (text.map map) = isDigits count text := by
    simp [isDigits, Function.comp_def, others]
  simp only [nineDigits?, ← List.map_take, ← List.map_drop, List.dropWhile_map, Function.comp_def,
    others, counted]
  split
  case isTrue nine =>
    obtain ⟨zone, addOn⟩ := Bool.and_eq_true_iff.1 nine
    rw [kept 5 _ zone, kept 4 _ addOn]
  case isFalse => rfl

theorem IsTidy.is_digits_upper {text : Text} (tidy : IsTidy text) (count : Nat) :
    isDigits count text.upper = isDigits count text := by
  have classes (value : Text) :
      isDigits count value = (((value.map isDigit).length = count) && (value.map isDigit).all id) := by
    simp [isDigits]
  rw [classes, classes, Text.upper_class_of_settled text tidy.settled isDigit half_no_digit]

theorem IsTidy.nine_digits_upper {text : Text} (tidy : IsTidy text) :
    nineDigits? text.upper = nineDigits? text := by
  let blur : Char → Char := fun unit => if Text.isHalf unit then '-' else unit
  have read (value : Text) : nineDigits? (value.map blur) = nineDigits? value := by
    apply nine_digits_map
    · intro letter digit
      simp [blur, plain_no_half letter (digit_plain letter digit)]
    · intro letter
      by_cases half : Text.isHalf letter = true
      · simp only [blur, half, if_true, half_no_digit letter half]
        rfl
      · simp [blur, half]
  have same := Text.upper_map_of_settled text tidy.settled blur fun unit other unitHalf otherHalf => by
    simp [blur, unitHalf, otherHalf]
  rw [← read, same, read]

/-- Writing a code again puts it in uppercase and does nothing else. -/
theorem write_zip_code_again (value : Text) :
    writeZipCode (writeZipCode value) = (writeZipCode value).upper := by
  cases read : nineDigits? (normalize value) with
  | none =>
      have written : writeZipCode value = normalize value := by rw [writeZipCode, read]
      have unread := (normalize_normal value).toIsTidy.nine_digits_upper
      rw [written, writeZipCode, normalize_normalize, unread, read]
  | some parts =>
      obtain ⟨gap, nine⟩ := (nine_digits_eq_some_iff _ parts.1 parts.2).1 read
      have written := write_nine_digits value parts.1 gap parts.2 nine
      have upper := plain_upper _ (hyphened_plain parts.1 parts.2 nine.zoneDigits nine.addOnDigits)
      have same := (write_zip_code_normal value).normalize (written ▸ upper)
      have hyphened := nine_digits_hyphened parts.1 parts.2 nine.zoneDigits nine.addOnDigits
      rw [written] at same ⊢
      rw [upper.upper]
      exact write_nine_digits _ _ ['-'] _ (same.symm ▸ hyphened)

theorem write_zip_code_nil : writeZipCode [] = [] := by decide

end PostalAddress
