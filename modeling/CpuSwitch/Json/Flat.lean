import CpuSwitch.CLib.Literal

/-! Flat JSON objects: the grammar of their texts. -/
namespace FlatJson
open CLib

def isBlank (c : Char) : Bool := c = ' ' || c = '\t' || c = '\n' || c = '\r'

/-- Any amount of white space. -/
abbrev Blank := { text : Text // ∀ c ∈ text, isBlank c = true }

def isPlain (c : Char) : Bool := 32 ≤ c.toNat && c ≠ '"' && c ≠ '\\'

/-- What may stand between the quotes of a string. -/
inductive StringBody : Text → Prop where
  | nil : StringBody []
  | plain {c : Char} {body : Text} (hc : isPlain c = true) (h : StringBody body) :
      StringBody (c :: body)
  | escape {c : Char} {body : Text} (hc : c ∈ "\"\\/bfnrt".toList)
      (h : StringBody body) : StringBody ('\\' :: c :: body)
  | unicode {digits body : Text} (hlength : digits.length = 4)
      (hdigits : ∀ c ∈ digits, isHexDigit c = true) (h : StringBody body) :
      StringBody ('\\' :: 'u' :: (digits ++ body))

/-- A string, given by what stands between its quotes. -/
abbrev Str := { body : Text // StringBody body }

/-- A decimal literal without a plus sign, leading zeros or a bare point. -/
structure Number where
  literal : DecimalLiteral
  sign : literal.sign ≠ .plus
  whole : literal.whole = ['0'] ∨ literal.whole ≠ [] ∧ literal.whole.head? ≠ some '0'
  fraction : literal.fraction ≠ some []

inductive Value where
  | number (n : Number)
  | string (s : Str)

/-- A key and its value, with the white space around them. -/
structure Member where
  before : Blank
  key : Str
  beforeColon : Blank
  afterColon : Blank
  value : Value
  after : Blank

/-- An object; `inner` is the white space of an empty one. -/
structure Object where
  lead : Blank
  inner : Blank
  members : List Member
  trail : Blank

def Value.text : Value → Text
  | number n => n.literal.text
  | string s => '"' :: (s.val ++ ['"'])

def Member.text (member : Member) : Text :=
  member.before.val ++ '"' :: (member.key.val ++ '"' :: (member.beforeColon.val ++
    ':' :: (member.afterColon.val ++ (member.value.text ++ member.after.val))))

/-- The members that follow another one, up to the end of the object. -/
def closing (trail : Blank) : List Member → Text
  | [] => '\x7d' :: trail.val
  | member :: members => ',' :: (member.text ++ closing trail members)

def Object.text (object : Object) : Text :=
  object.lead.val ++ '\x7b' :: match object.members with
    | [] => object.inner.val ++ '\x7d' :: object.trail.val
    | member :: members => member.text ++ closing object.trail members

def Object.pairs (object : Object) : List (Text × Value) :=
  object.members.map fun member => (member.key.val, member.value)

/-- The value of a key. -/
def Object.lookup (object : Object) (key : Text) : Option Value := object.pairs.lookup key

/-- A member without white space. -/
def compactMember (key : Str) (value : Value) : Member :=
  ⟨⟨[], by simp⟩, key, ⟨[], by simp⟩, ⟨[], by simp⟩, value, ⟨[], by simp⟩⟩

/-- An object without white space. -/
def compactObject (members : List Member) : Object :=
  ⟨⟨[], by simp⟩, ⟨[], by simp⟩, members, ⟨[], by simp⟩⟩

/-- No key occurs twice. -/
def Object.Distinct (object : Object) : Prop := (object.pairs.map Prod.fst).Nodup

def Object.insert (object : Object) (position : ℕ) (member : Member) : Object :=
  { object with members := object.members.take position ++ member :: object.members.drop position }

section Bytes
variable {c : Char} {body : Text} {member : Member} {members : List Member} {trail : Blank}

theorem isPlain_ne (h : isPlain c = true) : c ≠ '"' := by
  rintro rfl
  exact absurd h (by decide)

theorem isBlank_cases (h : isBlank c = true) : c = ' ' ∨ c = '\t' ∨ c = '\n' ∨ c = '\r' := by
  simpa [isBlank, or_assoc] using h

theorem isspace_of_isBlank (h : isBlank c = true) : isspace c = true := by
  rcases isBlank_cases h with rfl | rfl | rfl | rfl <;> decide

theorem notMem_blank (blank : Blank) (h : isBlank c = false) : c ∉ blank.val := by
  intro hc
  rw [blank.property c hc] at h
  cases h

theorem not_isNumberByte_of_isBlank (h : isBlank c = true) : isNumberByte c = false := by
  rcases isBlank_cases h with rfl | rfl | rfl | rfl <;> decide

theorem notMem_number (number : Number) (h : isDecimalByte c = false) :
    c ∉ number.literal.text := by
  intro hc
  rw [number.literal.isDecimalByte_text c hc] at h
  cases h

theorem stringBody_of_plain (body : Text) (h : body.all isPlain = true) : StringBody body := by
  induction body with
  | nil => exact .nil
  | cons c body ih =>
    rw [List.all_cons, Bool.and_eq_true] at h
    exact .plain h.1 (ih h.2)

/-- Digits without a leading zero are a number. -/
theorem exists_number (digits : Text) (hall : digits.all Char.isDigit = true) (hne : digits ≠ [])
    (hzero : digits.head? ≠ some '0') :
    ∃ n : Number, n.literal.text = digits ∧
      n.literal.value = Nat.ofDigitChars 10 digits 0 ∧ n.literal.fraction = none ∧
      n.literal.exponent = none ∧ n.literal.sign = .absent := by
  have hdecimal : ∀ c ∈ digits ++ (none : Option Text).getD [], c.isDigit = true := by
    simpa using hall
  refine ⟨⟨⟨.absent, digits, none, none, hdecimal, by simpa using hne⟩, by simp,
    Or.inr ⟨hne, hzero⟩, by simp⟩, ?_, ?_, rfl, rfl, rfl⟩
  · simp [DecimalLiteral.text, DecimalLiteral.unsigned, DecimalLiteral.mantissa, Sign.text,
      fractionText, exponentText]
  · simp [DecimalLiteral.value, DecimalLiteral.magnitude, exponentValue]

theorem text_compactMember (key : Str) (value : Value) : (compactMember key value).text =
    '"' :: (key.val ++ '"' :: ':' :: value.text) := by
  simp [compactMember, Member.text]

theorem isHexDigit_ne (h : isHexDigit c = true) : c ≠ '"' ∧ c ≠ '\x00' := by
  constructor <;> rintro rfl <;> exact absurd h (by decide)

theorem noNul_stringBody (h : StringBody body) : '\x00' ∉ body := by
  induction h with
  | nil => simp
  | plain hc _ ih =>
    rw [List.mem_cons, not_or]
    refine ⟨?_, ih⟩
    rintro rfl
    exact absurd hc (by decide)
  | escape hc _ ih =>
    rw [List.mem_cons, List.mem_cons, not_or, not_or]
    refine ⟨by decide, ?_, ih⟩
    rintro rfl
    exact absurd hc (by decide)
  | unicode _ hdigits _ ih =>
    rw [List.mem_cons, List.mem_cons, List.mem_append, not_or, not_or, not_or]
    exact ⟨by decide, by decide, fun hc => (isHexDigit_ne (hdigits _ hc)).2 rfl, ih⟩

theorem noNul_member (member : Member) : '\x00' ∉ member.text := by
  have hblank : ∀ blank : Blank, '\x00' ∉ blank.val := fun blank => notMem_blank blank (by decide)
  have hvalue : '\x00' ∉ member.value.text := by
    cases member.value with
    | number n => exact notMem_number n (c := '\x00') (by decide)
    | string s => simp [Value.text, noNul_stringBody s.property]
  simp [Member.text, hblank, hvalue, noNul_stringBody member.key.property]

theorem noNul_closing (trail : Blank) (members : List Member) :
    '\x00' ∉ closing trail members := by
  induction members with
  | nil => simp [closing, notMem_blank trail (c := '\x00') (by decide)]
  | cons member members ih => simp [closing, noNul_member, ih]

theorem noNul_object (object : Object) : '\x00' ∉ object.text := by
  have hblank : ∀ blank : Blank, '\x00' ∉ blank.val := fun blank => notMem_blank blank (by decide)
  unfold Object.text
  cases object.members with
  | nil => simp [hblank]
  | cons member members => simp [hblank, noNul_member, noNul_closing]

/-- What follows a value ends any number. -/
theorem ends_after (blank : Blank) (trail : Blank) (members : List Member) :
    Ends (blank.val ++ closing trail members) := by
  obtain ⟨text, hblank⟩ := blank
  cases text with
  | nil => cases members <;> exact stops_cons.mpr (by decide)
  | cons c text =>
    exact stops_cons.mpr (not_isNumberByte_of_isBlank (hblank c List.mem_cons_self))

end Bytes

section Lookup
variable {object other : Object} {key : Text} {value : Value}

theorem lookup_eq_some_iff (h : object.Distinct) :
    object.lookup key = some value ↔ (key, value) ∈ object.pairs := by
  have hmem : ∀ {value}, object.lookup key = some value → (key, value) ∈ object.pairs := by
    intro value hlookup
    obtain ⟨front, back, hpairs, -⟩ := List.lookup_eq_some_iff.mp hlookup
    rw [hpairs]
    simp
  refine ⟨hmem, fun hpair => ?_⟩
  obtain ⟨found, hfound⟩ : ∃ found, object.lookup key = some found :=
    Option.isSome_iff_exists.mp (List.lookup_isSome_iff.mpr ⟨_, hpair, beq_self_eq_true _⟩)
  have hsame := List.inj_on_of_nodup_map h (hmem hfound) hpair rfl
  rw [hfound, (Prod.mk.inj hsame).2]

/-- The order of the members does not matter. -/
theorem lookup_congr (h : object.Distinct) (hperm : other.pairs.Perm object.pairs) :
    other.lookup key = object.lookup key := by
  have h' : other.Distinct := (hperm.map Prod.fst).nodup_iff.mpr h
  apply Option.ext
  intro value
  rw [lookup_eq_some_iff h', lookup_eq_some_iff h, hperm.mem_iff]

end Lookup

end FlatJson
