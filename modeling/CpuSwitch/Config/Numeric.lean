import CpuSwitch.Config.Lookup

/-! Loading a flat object of numbers agrees with looking its keys up. -/
namespace CpuSwitch.Config
open CLib FlatJson

/-- A small object of numbers under distinct keys without quotes and backslashes; the counters
are integers and the thresholds are in range. -/
structure NumericObject (object : Object) : Prop where
  numbers : ∀ member ∈ object.members, ∃ n, member.value = .number n
  plain : ∀ member ∈ object.members, '"' ∉ member.key.val ∧ '\\' ∉ member.key.val
  distinct : object.Distinct
  size : tooLarge object.text = false
  integers : ∀ c n, object.lookup (Counter.key c) = some (.number n) →
    n.literal.fraction = none ∧ n.literal.exponent = none
  thresholds : ∀ t n, object.lookup (Threshold.key t) = some (.number n) →
    rangeError n.literal.magnitude = false

/-- A counter with a minus sign or above 64 bits. -/
def Refused (object : Object) : Prop :=
  ∃ c n, object.lookup (Counter.key c) = some (.number n) ∧
    (n.literal.sign = .minus ∨ 2 ^ 64 - 1 < n.literal.value)

/-- Present fields hold the value of their member, absent ones the default. -/
structure AgreesWithLookup (object : Object) (config : CpuConfig) : Prop where
  threshold : ∀ t n, object.lookup (Threshold.key t) = some (.number n) →
    config.threshold t = .finite n.literal.value
  threshold_absent : ∀ t, object.lookup (Threshold.key t) = none →
    config.threshold t = cpuConfigDefaults.threshold t
  counter : ∀ c n, object.lookup (Counter.key c) = some (.number n) →
    ((config.counter c).toNat : ℚ) = n.literal.value
  counter_absent : ∀ c, object.lookup (Counter.key c) = none →
    config.counter c = cpuConfigDefaults.counter c

section Read
variable {key body : Text} {object other : Object} {value : Value} {t : Threshold} {c : Counter}
  {n : Number} {literal : DecimalLiteral}

theorem spells_iff (h : '"' ∉ body) : Spells key body ↔ body = key := by
  refine ⟨?_, Or.inl⟩
  rintro (he | hsuffix)
  · exact he
  · exact (h (hsuffix.subset List.mem_cons_self)).elim

/-- Among plain keys and numbers the search is the lookup. -/
theorem foundText_numeric (h : NumericObject object) (key : Text) :
    foundText key object.members = (object.lookup key).map Value.text := by
  have hnumbers := h.numbers
  have hplain := h.plain
  rw [Object.lookup, Object.pairs]
  generalize object.members = members at hnumbers hplain ⊢
  induction members with
  | nil => rfl
  | cons member members ih =>
    obtain ⟨n, hn⟩ := hnumbers member List.mem_cons_self
    have hkey := (hplain member List.mem_cons_self).1
    have hrest := ih (fun m hm => hnumbers m (List.mem_cons_of_mem _ hm))
      fun m hm => hplain m (List.mem_cons_of_mem _ hm)
    have hvalue : ¬ ValueSpells key member.value := by
      rw [hn]
      exact id
    rw [foundText, if_neg hvalue, List.map_cons, List.lookup_cons, hrest]
    by_cases he : member.key.val = key
    · simp [he, Spells]
    · have hne : (key == member.key.val) = false := beq_eq_false_iff_ne.mpr (Ne.symm he)
      rw [if_neg (mt (spells_iff hkey).mp he), hne]

theorem number_of_lookup (h : NumericObject object) (hv : object.lookup key = some value) :
    ∃ n, value = .number n := by
  obtain ⟨member, hmember, heq⟩ := List.mem_map.mp ((lookup_eq_some_iff h.distinct).mp hv)
  obtain ⟨n, hn⟩ := h.numbers member hmember
  rw [Prod.mk.injEq] at heq
  exact ⟨n, heq.2.symm.trans hn⟩

/-- The refused literals are those that `strtoull` cannot represent without wrapping. -/
theorem readU64_literal (hf : literal.fraction = none) (he : literal.exponent = none) :
    ((literal.sign = .minus ∨ 2 ^ 64 - 1 < literal.value) → readU64 literal.text = .invalid) ∧
    (¬ (literal.sign = .minus ∨ 2 ^ 64 - 1 < literal.value) →
      ∃ counter, readU64 literal.text = .value counter ∧ (counter.toNat : ℚ) = literal.value) := by
  obtain ⟨integer, hsign, htext, hvalue⟩ := literal.exists_integer hf he
  rw [htext, readU64_integer, ← hsign, hvalue]
  by_cases hs : integer.sign = .minus
  · simp [hs]
  · have hmagnitude : integer.value = integer.magnitude := if_neg hs
    have hbound : (2 ^ 64 - 1 : ℚ) < (integer.magnitude : ℤ) ↔ 2 ^ 64 ≤ integer.magnitude := by
      have hcast : (2 ^ 64 - 1 : ℚ) = ((2 ^ 64 - 1 : ℕ) : ℚ) := by norm_num
      rw [hcast, Int.cast_natCast, Nat.cast_lt]
      omega
    rw [hmagnitude, hbound]
    simp only [hs, false_or]
    refine ⟨fun hlarge => if_pos hlarge, fun hsmall => ⟨_, if_neg hsmall, ?_⟩⟩
    rw [UInt64.toNat_ofNat', Nat.mod_eq_of_lt (by omega), Int.cast_natCast]

theorem parseDoubleField_numeric (h : NumericObject object) (t : Threshold) :
    parseDoubleField object.text t.key =
      ((object.lookup t.key).map Value.text).elim .absent readDouble := by
  rw [parseDoubleField_object (keyName_threshold t), foundText_numeric h]

theorem parseU64Field_numeric (h : NumericObject object) (c : Counter) :
    parseU64Field object.text c.key =
      ((object.lookup c.key).map Value.text).elim .absent readU64 := by
  rw [parseU64Field_object (keyName_counter c), foundText_numeric h]

theorem parseDoubleField_valid (h : NumericObject object) (t : Threshold) :
    parseDoubleField object.text t.key ≠ .invalid := by
  rw [parseDoubleField_numeric h]
  cases hv : object.lookup t.key with
  | none => simp
  | some value =>
    obtain ⟨n, rfl⟩ := number_of_lookup h hv
    simp [Value.text, readDouble_literal (h.thresholds t n hv)]

theorem load_numeric_ok_iff (h : NumericObject object) :
    (cpuConfigLoad (.readable object.text)).1 = .ok () ↔ ¬ Refused object := by
  rw [load_ok_iff, cString_object]
  constructor
  · rintro ⟨-, -, hcounter⟩ ⟨c, n, hv, hrefused⟩
    apply hcounter c
    obtain ⟨hf, he⟩ := h.integers c n hv
    rw [parseU64Field_numeric h, hv]
    exact (readU64_literal hf he).1 hrefused
  · intro haccepted
    refine ⟨h.size, parseDoubleField_valid h, fun c => ?_⟩
    rw [parseU64Field_numeric h]
    cases hv : object.lookup c.key with
    | none => simp
    | some value =>
      obtain ⟨n, rfl⟩ := number_of_lookup h hv
      obtain ⟨hf, he⟩ := h.integers c n hv
      obtain ⟨counter, hread, -⟩ := (readU64_literal hf he).2
        fun hrefused => haccepted ⟨c, n, hv, hrefused⟩
      simp [Value.text, hread]

theorem agreesWithLookup_load (h : NumericObject object) (haccepted : ¬ Refused object) :
    AgreesWithLookup object (cpuConfigLoad (.readable object.text)).2 := by
  constructor
  · intro t n hv
    rw [threshold_load h.size, cString_object, parseDoubleField_numeric h, hv]
    simp [Value.text, readDouble_literal (h.thresholds t n hv), Field.getD]
  · intro t hv
    rw [threshold_load h.size, cString_object, parseDoubleField_numeric h, hv]
    rfl
  · intro c n hv
    obtain ⟨hf, he⟩ := h.integers c n hv
    obtain ⟨counter, hread, hvalue⟩ := (readU64_literal hf he).2
      fun hrefused => haccepted ⟨c, n, hv, hrefused⟩
    rw [counter_load h.size, cString_object, parseU64Field_numeric h, hv]
    simpa [Value.text, hread, Field.getD] using hvalue
  · intro c hv
    rw [counter_load h.size, cString_object, parseU64Field_numeric h, hv]
    rfl

theorem load_congr_of_perm (h : NumericObject object) (h' : NumericObject other)
    (hperm : other.pairs.Perm object.pairs) :
    cpuConfigLoad (.readable other.text) = cpuConfigLoad (.readable object.text) := by
  have hfields : parseFields other.text = parseFields object.text := by
    apply parseFields_congr
    · intro t
      rw [parseDoubleField_numeric h, parseDoubleField_numeric h', lookup_congr h.distinct hperm]
    · intro c
      rw [parseU64Field_numeric h, parseU64Field_numeric h', lookup_congr h.distinct hperm]
  rw [cpuConfigLoad_readable h.size, cpuConfigLoad_readable h'.size, cString_object,
    cString_object, hfields]

end Read

/-- On objects of numbers the reader is a JSON lookup, whatever the order of the members. -/
theorem load_numeric (object : Object) (h : NumericObject object) :
    (Refused object → ∃ error, (cpuConfigLoad (.readable object.text)).1 = .error error) ∧
      (¬ Refused object → (cpuConfigLoad (.readable object.text)).1 = .ok () ∧
        AgreesWithLookup object (cpuConfigLoad (.readable object.text)).2) ∧
      ∀ other, NumericObject other → other.pairs.Perm object.pairs →
        cpuConfigLoad (.readable other.text) = cpuConfigLoad (.readable object.text) := by
  refine ⟨fun hrefused => ?_, fun haccepted => ?_, fun other h' hperm => ?_⟩
  · cases hload : (cpuConfigLoad (.readable object.text)).1 with
    | error error => exact ⟨error, rfl⟩
    | ok _ => exact ((load_numeric_ok_iff h).mp hload hrefused).elim
  · exact ⟨(load_numeric_ok_iff h).mpr haccepted, agreesWithLookup_load h haccepted⟩
  · exact load_congr_of_perm h h' hperm

/-- A plain key with a natural number of 64 bits. -/
structure HoldsNat (member : FlatJson.Member) (value : ℕ) : Prop where
  plain : '"' ∉ member.key.val ∧ '\\' ∉ member.key.val
  small : value < 2 ^ 64
  number : ∃ n, member.value = .number n ∧ n.literal.fraction = none ∧
    n.literal.exponent = none ∧ n.literal.sign = .absent ∧ n.literal.value = value

theorem exists_holdsNat (key digits : Text) (hkey : KeyName key) (hplain : key.all isPlain = true)
    (hall : digits.all Char.isDigit = true) (hne : digits ≠ []) (hzero : digits.head? ≠ some '0')
    (hsmall : Nat.ofDigitChars 10 digits 0 < 2 ^ 64) :
    ∃ member : FlatJson.Member, member.key.val = key ∧
      HoldsNat member (Nat.ofDigitChars 10 digits 0) ∧
      member.text = '"' :: (key ++ '"' :: ':' :: digits) := by
  obtain ⟨n, hn, hvalue, hf, he, hsign⟩ := exists_number digits hall hne hzero
  refine ⟨compactMember ⟨key, stringBody_of_plain key hplain⟩ (.number n), rfl, ?_, ?_⟩
  · exact ⟨⟨hkey.notMem (by decide), hkey.notMem (by decide)⟩, hsmall, n, rfl, hf, he, hsign,
      hvalue⟩
  · rw [text_compactMember, Value.text, hn]

/-- Such members make an object that the reader accepts. -/
theorem numericObject_of_holdsNat {members : List FlatJson.Member}
    (h : ∀ member ∈ members, ∃ value, HoldsNat member value)
    (hdistinct : (members.map fun member => member.key.val).Nodup)
    (hkeys : ∀ member ∈ members, ∀ t, member.key.val ≠ Threshold.key t)
    (hsize : tooLarge (compactObject members).text = false) :
    NumericObject (compactObject members) ∧ ¬ Refused (compactObject members) := by
  have hkeysDistinct : (compactObject members).Distinct := by
    simpa [Object.Distinct, Object.pairs, compactObject, Function.comp_def] using hdistinct
  have hmember : ∀ {key value}, (compactObject members).lookup key = some value →
      ∃ member ∈ members, member.key.val = key ∧ member.value = value := by
    intro key value hlookup
    simpa [Object.pairs, compactObject] using (lookup_eq_some_iff hkeysDistinct).mp hlookup
  refine ⟨⟨fun member hm => ?_, fun member hm => ?_, hkeysDistinct, hsize, ?_, ?_⟩, ?_⟩
  · obtain ⟨value, hvalue⟩ := h member hm
    obtain ⟨n, hn, -⟩ := hvalue.number
    exact ⟨n, hn⟩
  · obtain ⟨value, hvalue⟩ := h member hm
    exact hvalue.plain
  · intro c n hlookup
    obtain ⟨member, hm, -, hvalue⟩ := hmember hlookup
    obtain ⟨value, hholds⟩ := h member hm
    obtain ⟨n', hn, hf, he, -⟩ := hholds.number
    cases hn.symm.trans hvalue
    exact ⟨hf, he⟩
  · intro t n hlookup
    obtain ⟨member, hm, hkey, -⟩ := hmember hlookup
    exact (hkeys member hm t hkey).elim
  · rintro ⟨c, n, hlookup, hrefused⟩
    obtain ⟨member, hm, -, hvalue⟩ := hmember hlookup
    obtain ⟨value, hholds⟩ := h member hm
    obtain ⟨n', hn, -, -, hsign, hnat⟩ := hholds.number
    cases hn.symm.trans hvalue
    rcases hrefused with hminus | hlarge
    · cases hsign.symm.trans hminus
    · rw [hnat] at hlarge
      have hbound : (value : ℚ) ≤ ((2 ^ 64 - 1 : ℕ) : ℚ) :=
        Nat.cast_le.mpr (Nat.le_sub_one_of_lt hholds.small)
      norm_num at hbound hlarge
      linarith

/-- Three members in two orders; the unknown key contains a known one. -/
theorem load_numeric_shuffled :
    let loaded := cpuConfigLoad (.readable
      "\x7b\"my_interval_ms\":5,\"low_frequency_khz\":900000,\"interval_ms\":700\x7d".toList)
    loaded.1 = .ok () ∧ ((loaded.2.counter .interval).toNat : ℚ) = 700 ∧
      cpuConfigLoad (.readable
        "\x7b\"interval_ms\":700,\"low_frequency_khz\":900000,\"my_interval_ms\":5\x7d".toList) =
          loaded := by
  obtain ⟨mine, hmine, hfive, hm⟩ := exists_holdsNat "my_interval_ms".toList "5".toList
    rfl (by decide) (by decide) (by decide) (by decide) (by decide)
  obtain ⟨clock, hclock, hkhz, hc⟩ := exists_holdsNat (Counter.key .lowFrequency)
    "900000".toList (keyName_counter _) (by decide) (by decide) (by decide) (by decide) (by decide)
  obtain ⟨interval, hinterval, hms, hi⟩ := exists_holdsNat (Counter.key .interval)
    "700".toList (keyName_counter _) (by decide) (by decide) (by decide) (by decide) (by decide)
  let object := compactObject [mine, clock, interval]
  let other := compactObject [interval, clock, mine]
  have hobject : object.text =
      "\x7b\"my_interval_ms\":5,\"low_frequency_khz\":900000,\"interval_ms\":700\x7d".toList := by
    simp only [object, compactObject, Object.text, closing, hm, hc, hi]
    decide
  have hother : other.text =
      "\x7b\"interval_ms\":700,\"low_frequency_khz\":900000,\"my_interval_ms\":5\x7d".toList := by
    simp only [other, compactObject, Object.text, closing, hm, hc, hi]
    decide
  have hthresholds : ∀ member ∈ [mine, clock, interval], ∀ t,
      member.key.val ≠ Threshold.key t := by
    simp only [List.forall_mem_cons, hmine, hclock, hinterval]
    refine ⟨?_, ?_, ?_, by simp⟩ <;> rintro (_ | _) <;> decide
  have hholds : ∀ member ∈ [mine, clock, interval], ∃ value, HoldsNat member value := by
    simp only [List.forall_mem_cons]
    exact ⟨⟨_, hfive⟩, ⟨_, hkhz⟩, ⟨_, hms⟩, by simp⟩
  have hreverse : [interval, clock, mine].Perm [mine, clock, interval] :=
    List.reverse_perm [_, _, _]
  obtain ⟨hnumeric, haccepted⟩ := numericObject_of_holdsNat hholds
    (by simp only [List.map_cons, hmine, hclock, hinterval]; decide) hthresholds
    (by rw [hobject]; decide +kernel)
  have hnumeric' := (numericObject_of_holdsNat
    (fun member hmem => hholds member (hreverse.subset hmem))
    (by simp only [List.map_cons, hmine, hclock, hinterval]; decide)
    (fun member hmem => hthresholds member (hreverse.subset hmem))
    (by rw [hother]; decide +kernel)).1
  obtain ⟨-, hload, hsame⟩ := load_numeric object hnumeric
  obtain ⟨hok, hagrees⟩ := hload haccepted
  obtain ⟨n, hn, -, -, -, hvalue⟩ := hms.number
  have hlookup : object.lookup (Counter.key .interval) = some (.number n) := by
    rw [lookup_eq_some_iff hnumeric.distinct]
    simp [compactObject, Object.pairs, hinterval, hn]
  have hshuffled := hsame other hnumeric' (hreverse.map _)
  rw [hobject] at hok hagrees hshuffled
  rw [hother] at hshuffled
  refine ⟨hok, (hagrees.counter .interval n hlookup).trans ?_, hshuffled⟩
  rw [hvalue]
  decide +kernel

end CpuSwitch.Config
