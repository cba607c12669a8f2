import CpuSwitch.Config.Fields
import CpuSwitch.Json.Flat

/-! What the substring search finds in the text of a flat JSON object. -/
namespace CpuSwitch.Config
open CLib FlatJson

/-- The bytes that delimit something in an object or escape a delimiter. -/
def isDelimiter (c : Char) : Bool := c = '"' || c = '\\' || c = ':' || c = ',' || c = '\x7d'

/-- A key without delimiters. -/
def KeyName (key : Text) : Prop := key.any isDelimiter = false

/-- The quoted key occurs at the end of the string, which is the key or has an escaped quote. -/
def Spells (key body : Text) : Prop := body = key ∨ '"' :: key <:+ body

instance (key body : Text) : Decidable (Spells key body) :=
  inferInstanceAs (Decidable (_ ∨ _))

def ValueSpells (key : Text) : Value → Prop
  | .number _ => False
  | .string body => Spells key body.val

instance (key : Text) : (value : Value) → Decidable (ValueSpells key value)
  | .number _ => inferInstanceAs (Decidable False)
  | .string body => inferInstanceAs (Decidable (Spells key body.val))

/-- What follows the first colon behind a string value. -/
def strayText : List FlatJson.Member → Option Text
  | [] => none
  | member :: _ =>
    match strchr member.key.val ':' with
    | some rest => some rest.tail
    | none => some member.value.text

/-- The text that the reader takes for the value of a key. -/
def foundText (key : Text) : List FlatJson.Member → Option Text
  | [] => none
  | member :: members =>
    if Spells key member.key.val then some member.value.text
    else if ValueSpells key member.value then strayText members
    else foundText key members

section String
variable {key body front rest gap json text : Text} {c : Char}

theorem KeyName.notMem (hk : KeyName key) (hc : isDelimiter c = true) : c ∉ key :=
  fun hmem => List.any_eq_false.mp hk c hmem hc

theorem KeyName.notMem_quoted (hk : KeyName key) (hc : isDelimiter c = true) (hne : c ≠ '"') :
    c ∉ quoted key := by
  simp [quoted, hk.notMem hc, hne]

theorem keyName_threshold (t : Threshold) : KeyName t.key := by
  cases t <;> rfl

theorem keyName_counter (c : Counter) : KeyName c.key := by
  cases c <;> rfl

theorem quote_suffix_append (h : '"' ∉ front) :
    '"' :: key <:+ front ++ body ↔ '"' :: key <:+ body := by
  induction front with
  | nil => rfl
  | cons c front ih =>
    have hc : c ≠ '"' := fun he => h (he ▸ List.mem_cons_self)
    rw [List.cons_append, List.suffix_cons_iff, ih fun hm => h (List.mem_cons_of_mem _ hm)]
    simp [Ne.symm hc]

/-- In a string, the quoted key can only end at the closing quote. -/
def SearchedString (key rest body : Text) : Prop :=
  ∀ front, '"' ∉ front →
    strstr ('"' :: (front ++ (body ++ '"' :: rest))) (quoted key) =
      if front ++ body = key ∨ '"' :: key <:+ body then some (quoted key ++ rest)
      else strstr ('"' :: rest) (quoted key)

theorem searchedString_nil (hk : KeyName key) : SearchedString key rest [] := by
  intro front hfront
  have hsuffix : ¬ '"' :: key <:+ [] := by simp
  simp only [List.append_nil, List.nil_append, hsuffix, or_false]
  split_ifs with he
  · have hquoted : '"' :: (front ++ '"' :: rest) = quoted key ++ rest := by simp [he, quoted]
    rw [hquoted, strstr_self_append]
  · exact strstr_quoted_of_ne hfront (hk.notMem (by decide)) he

theorem searchedString_block (front : Text) (hfront : '"' ∉ front)
    (h : SearchedString key rest body) : SearchedString key rest (front ++ body) := by
  intro before hbefore
  have hboth : '"' ∉ before ++ front := by
    rw [List.mem_append, not_or]
    exact ⟨hbefore, hfront⟩
  have hread := h (before ++ front) hboth
  simp only [List.append_assoc] at hread ⊢
  simp only [hread, quote_suffix_append hfront]

/-- An escaped quote may open the quoted key, but does not close it. -/
theorem searchedString_escaped (hk : KeyName key) (h : SearchedString key rest body) :
    SearchedString key rest ('\\' :: '"' :: body) := by
  intro front hfront
  have hslash : '\\' ∉ key := hk.notMem (by decide)
  have hopen : '"' ∉ front ++ ['\\'] := by simp [hfront]
  have hne : front ++ ['\\'] ≠ key := by
    rintro rfl
    simp at hslash
  have hwhole : front ++ '\\' :: '"' :: body ≠ key := by
    rintro rfl
    simp at hslash
  have hsplit : '"' :: (front ++ ('\\' :: '"' :: body ++ '"' :: rest)) =
      '"' :: (front ++ ['\\'] ++ '"' :: (body ++ '"' :: rest)) := by simp
  have hsuffix : '"' :: key <:+ '\\' :: '"' :: body ↔ body = key ∨ '"' :: key <:+ body := by
    rw [List.suffix_cons_iff, List.suffix_cons_iff]
    simp [eq_comm]
  rw [hsplit, strstr_quoted_of_ne hopen (hk.notMem (by decide)) hne]
  have hread := h [] (by simp)
  simpa [hwhole, hsuffix] using hread

theorem searchedString (hk : KeyName key) (h : StringBody body) (rest : Text) :
    SearchedString key rest body := by
  induction h with
  | nil => exact searchedString_nil hk
  | plain hc _ ih => exact searchedString_block [_] (by simpa using (isPlain_ne hc).symm) ih
  | @escape c body hc _ ih =>
    by_cases hquote : c = '"'
    · subst hquote
      exact searchedString_escaped hk ih
    · exact searchedString_block ['\\', c] (by simp [Ne.symm hquote]) ih
  | @unicode digits body _ hdigits _ ih =>
    refine searchedString_block ('\\' :: 'u' :: digits) ?_ ih
    simp only [List.mem_cons, not_or]
    exact ⟨by decide, by decide, fun hc => (isHexDigit_ne (hdigits _ hc)).1 rfl⟩

theorem findJsonValue_string (hk : KeyName key) (h : StringBody body) (rest : Text) :
    findJsonValue ('"' :: (body ++ '"' :: rest)) key =
      if Spells key body then (strchr rest ':').map List.tail
      else findJsonValue ('"' :: rest) key := by
  have hread := searchedString hk h rest [] (by simp)
  simp only [List.nil_append] at hread
  split_ifs with hs
  · exact findJsonValue_of_hit (hread.trans (if_pos hs))
  · exact findJsonValue_congr (hread.trans (if_neg hs))

/-- A closing quote does not open the key when something that no key has comes before a quote. -/
theorem findJsonValue_gap (hk : KeyName key) (hgap : '"' ∉ gap) (hc : isDelimiter c = true)
    (hne : c ≠ '"') :
    findJsonValue ('"' :: (gap ++ c :: rest)) key = findJsonValue rest key := by
  apply findJsonValue_congr
  have hquotes : ¬ quoted key <:+: '"' :: gap := by
    intro hinfix
    have hcount := hinfix.sublist.count_le '"'
    simp [quoted, List.count_eq_zero_of_not_mem hgap] at hcount
  exact strstr_piece (hk.notMem_quoted hc hne) (by simp [quoted]) hquotes

end String

section Members
variable {key : Text} {member : FlatJson.Member} {members : List FlatJson.Member} {trail : Blank}
  {object : Object}

theorem quote_notMem_number (n : Number) : '"' ∉ n.literal.text :=
  notMem_number n (by decide)

theorem skipSpace_value (value : Value) : skipSpace value.text ≠ [] := by
  cases value with
  | number n =>
    rw [Value.text, skipSpace_of_decimal n.literal.isDecimalByte_text]
    exact n.literal.text_ne_nil
  | string s => simp [Value.text, skipSpace_cons_of_not (show isspace '"' = false by decide)]

/-- The search from the colon of a member on. -/
theorem findJsonValue_value (hk : KeyName key) :
    findJsonValue (member.afterColon.val ++ (member.value.text ++
        (member.after.val ++ closing trail members))) key =
      if ValueSpells key member.value then
        (strchr (member.after.val ++ closing trail members) ':').map List.tail
      else findJsonValue (closing trail members) key := by
  have hblank : ∀ blank : Blank, '"' ∉ blank.val := fun blank => notMem_blank blank (by decide)
  rw [findJsonValue_append (hblank _)]
  cases member.value with
  | number n =>
    rw [Value.text, findJsonValue_append (quote_notMem_number n), findJsonValue_append (hblank _)]
    rfl
  | string s =>
    -- After the string come blanks and what closes the member.
    obtain ⟨c, rest, hclosing, hc, hne⟩ :
        ∃ c rest, closing trail members = c :: rest ∧ isDelimiter c = true ∧ c ≠ '"' := by
      cases members with
      | nil => exact ⟨_, _, rfl, by decide, by decide⟩
      | cons member members => exact ⟨_, _, rfl, by decide, by decide⟩
    have hskip : findJsonValue (c :: rest) key = findJsonValue rest key :=
      findJsonValue_congr (strstr_cons_of_ne hne)
    have hstring := findJsonValue_string hk s.property (member.after.val ++ closing trail members)
    rw [hclosing, findJsonValue_gap hk (hblank _) hc hne, ← hskip, ← hclosing] at hstring
    have htext : (Value.string s).text ++ (member.after.val ++ closing trail members) =
        '"' :: (s.val ++ '"' :: (member.after.val ++ closing trail members)) := by
      simp [Value.text]
    rw [htext, hstring]
    rfl

theorem findJsonValue_member (hk : KeyName key) :
    findJsonValue (member.text ++ closing trail members) key =
      if Spells key member.key.val then
        some (member.afterColon.val ++ (member.value.text ++
          (member.after.val ++ closing trail members)))
      else if ValueSpells key member.value then
        (strchr (member.after.val ++ closing trail members) ':').map List.tail
      else findJsonValue (closing trail members) key := by
  have hblank : ∀ blank : Blank, '"' ∉ blank.val := fun blank => notMem_blank blank (by decide)
  have hcolon : ':' ∉ member.beforeColon.val := notMem_blank _ (by decide)
  have hstring := findJsonValue_string hk member.key.property (member.beforeColon.val ++ ':' ::
    (member.afterColon.val ++ (member.value.text ++ (member.after.val ++ closing trail members))))
  rw [strchr_append hcolon, findJsonValue_gap hk (hblank _) (by decide) (by decide),
    findJsonValue_value hk] at hstring
  have hsplit : member.text ++ closing trail members =
      member.before.val ++ '"' :: (member.key.val ++ '"' :: (member.beforeColon.val ++ ':' ::
        (member.afterColon.val ++ (member.value.text ++
          (member.after.val ++ closing trail members))))) := by
    simp [FlatJson.Member.text]
  rw [hsplit, findJsonValue_append (hblank _), hstring]
  rfl

theorem reads_value : Reads (member.afterColon.val ++ (member.value.text ++
    (member.after.val ++ closing trail members))) member.value.text :=
  ⟨_, _, rfl, fun c hc => isspace_of_isBlank (member.afterColon.property c hc), ends_after _ _ _,
    Or.inr (skipSpace_value _)⟩

/-- The first colon behind a string value stands in the next key or right behind it. -/
theorem reads_stray (blank : Blank) :
    Option.Rel Reads ((strchr (blank.val ++ closing trail members) ':').map List.tail)
      (strayText members) := by
  have hblank : ∀ blank : Blank, ':' ∉ blank.val := fun blank => notMem_blank blank (by decide)
  cases members with
  | nil =>
    have hnone : ':' ∉ blank.val ++ closing trail [] := by simp [closing, hblank]
    rw [strchr_of_notMem hnone]
    exact .none
  | cons member members =>
    have hfront : ':' ∉ blank.val ++ ',' :: (member.before.val ++ ['"']) := by simp [hblank]
    have hsplit : blank.val ++ closing trail (member :: members) =
        (blank.val ++ ',' :: (member.before.val ++ ['"'])) ++ (member.key.val ++ '"' ::
          (member.beforeColon.val ++ ':' :: (member.afterColon.val ++ (member.value.text ++
            (member.after.val ++ closing trail members))))) := by
      simp [closing, FlatJson.Member.text]
    rw [hsplit, strchr_append_of_notMem hfront, strayText]
    cases hkey : strchr member.key.val ':' with
    | none =>
      have hcolon : ':' ∉ member.key.val ++ '"' :: member.beforeColon.val := by
        simp [hblank, strchr_eq_none_iff.mp hkey]
      have hback : ∀ rest : Text, member.key.val ++ '"' :: (member.beforeColon.val ++ ':' :: rest) =
          (member.key.val ++ '"' :: member.beforeColon.val) ++ ':' :: rest := by simp
      rw [hback, strchr_append hcolon]
      exact .some reads_value
    | some rest =>
      obtain ⟨front, more, hbody, rfl, hcolon⟩ := strchr_eq_some hkey
      rw [hbody, List.append_assoc, List.cons_append, strchr_append hcolon]
      refine .some ⟨[], _, rfl, by simp, ?_, Or.inl ?_⟩
      · exact stops_cons.mpr (by decide)
      · exact stops_cons.mpr (by decide)

theorem reads_closing (hk : KeyName key) (trail : Blank) (members : List FlatJson.Member) :
    Option.Rel Reads (findJsonValue (closing trail members) key) (foundText key members) := by
  induction members with
  | nil =>
    have hquote : '"' ∉ closing trail [] := by
      simp [closing, notMem_blank trail (c := '"') (by decide)]
    have hskip : findJsonValue (closing trail [] ++ []) key = findJsonValue [] key :=
      findJsonValue_append hquote
    rw [List.append_nil] at hskip
    rw [hskip]
    exact .none
  | cons member members ih =>
    rw [closing, ← List.singleton_append, findJsonValue_append (by decide),
      findJsonValue_member hk, foundText]
    split_ifs
    · exact .some reads_value
    · exact reads_stray _
    · exact ih

/-- What the reader finds in an object depends on its keys and values only. -/
theorem reads_object (hk : KeyName key) :
    Option.Rel Reads (findJsonValue object.text key) (foundText key object.members) := by
  have hlead : '"' ∉ object.lead.val ++ ['\x7b'] := by
    simp [notMem_blank object.lead (c := '"') (by decide)]
  have hsplit : ∀ text : Text, object.lead.val ++ '\x7b' :: text =
      (object.lead.val ++ ['\x7b']) ++ text := by simp
  rw [Object.text, hsplit, findJsonValue_append hlead]
  cases hm : object.members with
  | nil =>
    have hinner : '"' ∉ object.inner.val := notMem_blank _ (by decide)
    have hclosing := reads_closing hk object.trail []
    dsimp only
    rw [findJsonValue_append hinner]
    exact hclosing
  | cons member members =>
    have hclosing := reads_closing hk object.trail (member :: members)
    rw [closing, ← List.singleton_append, findJsonValue_append (by decide)] at hclosing
    exact hclosing

theorem cString_object (object : Object) : cString object.text = object.text :=
  cString_of_noNul (noNul_object object)

theorem parseDoubleField_object (hk : KeyName key) : parseDoubleField object.text key =
    (foundText key object.members).elim .absent readDouble := by
  rw [parseDoubleField_eq, elim_congr readDouble_congr (reads_object hk)]

theorem parseU64Field_object (hk : KeyName key) : parseU64Field object.text key =
    (foundText key object.members).elim .absent readU64 := by
  rw [parseU64Field_eq, elim_congr readU64_congr (reads_object hk)]

end Members

end CpuSwitch.Config
