import CpuSwitch.Config.Fields

/-! What the reader makes of a written configuration. -/
namespace CpuSwitch.Config
open CLib

/-- One line of the written file, up to the next quote. -/
def printedMember (key value separator : Text) : Member where
  key := key
  after := ':' :: ' ' :: (value ++ separator)

/-- A threshold as it leaves its 64-byte buffer. -/
def printedThreshold (threshold : Double) : Text := (formatFixed 1 threshold).take 63

def printedMembers (config : CpuConfig) : List Member :=
  [printedMember "low_threshold_pct".toList (printedThreshold config.lowThresholdPct)
      ",\n  ".toList,
    printedMember "high_threshold_pct".toList (printedThreshold config.highThresholdPct)
      ",\n  ".toList,
    printedMember "low_frequency_khz".toList (formatLlu config.lowFrequencyKhz) ",\n  ".toList,
    printedMember "high_frequency_khz".toList (formatLlu config.highFrequencyKhz) ",\n  ".toList,
    printedMember "interval_ms".toList (formatLlu config.intervalMs) "\n\x7d\n".toList]

theorem configText_eq (config : CpuConfig) :
    configText config = "\x7b\n  ".toList ++ (printedMembers config).flatMap Member.text := by
  have hopen : "\x7b\n  \"low_threshold_pct\": ".toList =
      "\x7b\n  ".toList ++ (quoted "low_threshold_pct".toList ++ [':', ' ']) := rfl
  have hhigh : ",\n  \"high_threshold_pct\": ".toList =
      ",\n  ".toList ++ (quoted "high_threshold_pct".toList ++ [':', ' ']) := rfl
  have hlowFrequency : ",\n  \"low_frequency_khz\": ".toList =
      ",\n  ".toList ++ (quoted "low_frequency_khz".toList ++ [':', ' ']) := rfl
  have hhighFrequency : ",\n  \"high_frequency_khz\": ".toList =
      ",\n  ".toList ++ (quoted "high_frequency_khz".toList ++ [':', ' ']) := rfl
  have hinterval : ",\n  \"interval_ms\": ".toList =
      ",\n  ".toList ++ (quoted "interval_ms".toList ++ [':', ' ']) := rfl
  unfold configText
  rw [hopen, hhigh, hlowFrequency, hhighFrequency, hinterval]
  simp only [printedMembers, printedMember, printedThreshold, Member.text, List.flatMap_cons,
    List.flatMap_nil, List.append_assoc, List.cons_append, List.nil_append, List.append_nil]

section Bytes
variable {config : CpuConfig} {counter : UInt64} {threshold : Double} {low high : ℚ}

theorem isNumeral_formatLlu : ∀ c ∈ formatLlu counter, isNumeral c = true := by
  intro c hc
  simp [isNumeral, isDigit_toDigits c hc]

theorem length_formatLlu_le (counter : UInt64) : (formatLlu counter).length ≤ 20 := by
  have hlt : counter.toNat < 10 ^ 20 := counter.toNat_lt.trans (by decide)
  exact (Nat.length_toDigits_le_iff (by decide) (by decide)).mpr hlt

theorem isNumeral_printedThreshold (h : threshold.isfinite = true) :
    ∀ c ∈ printedThreshold threshold, isNumeral c = true := by
  obtain ⟨value, rfl⟩ := Double.isfinite_iff.mp h
  intro c hc
  exact isNumeral_formatFixed c (List.mem_of_mem_take hc)

theorem printedThreshold_finite (h : Moderate 1 low) :
    printedThreshold (.finite low) = formatFixed 1 (.finite low) :=
  List.take_of_length_le ((length_formatFixed_le h).trans (by decide))

theorem noNul_configText (hlow : config.lowThresholdPct.isfinite = true)
    (hhigh : config.highThresholdPct.isfinite = true) : '\x00' ∉ configText config := by
  have hno : ∀ {text : Text}, (∀ c ∈ text, isNumeral c = true) → '\x00' ∉ text := by
    intro text htext hmem
    exact absurd (htext _ hmem) (by decide)
  have hl := hno (isNumeral_printedThreshold hlow)
  have hh := hno (isNumeral_printedThreshold hhigh)
  have hn : ∀ counter, '\x00' ∉ formatLlu counter := fun _ => hno isNumeral_formatLlu
  unfold configText
  simp only [List.mem_append, not_or]
  exact ⟨⟨⟨⟨⟨⟨⟨⟨⟨⟨by decide, hl⟩, by decide⟩, hh⟩, by decide⟩, hn _⟩, by decide⟩, hn _⟩,
    by decide⟩, hn _⟩, by decide⟩

theorem not_tooLarge_configText : tooLarge (configText config) = false := by
  have hl := List.length_take_le 63 (formatFixed 1 config.lowThresholdPct)
  have hh := List.length_take_le 63 (formatFixed 1 config.highThresholdPct)
  have hlf := length_formatLlu_le config.lowFrequencyKhz
  have hhf := length_formatLlu_le config.highFrequencyKhz
  have hi := length_formatLlu_le config.intervalMs
  have htemplate : ("\x7b\n  \"low_threshold_pct\": ".toList.length +
      ",\n  \"high_threshold_pct\": ".toList.length +
      ",\n  \"low_frequency_khz\": ".toList.length +
      ",\n  \"high_frequency_khz\": ".toList.length +
      ",\n  \"interval_ms\": ".toList.length + "\n\x7d\n".toList.length) ≤ 200 := by decide
  apply decide_eq_false
  unfold configText
  simp only [List.length_append]
  omega

/-- The quotes of the written file are those around its keys. -/
theorem plain_printedMembers (hlow : config.lowThresholdPct.isfinite = true)
    (hhigh : config.highThresholdPct.isfinite = true) :
    ∀ m ∈ printedMembers config, m.Plain := by
  have hplain : ∀ {key value separator : Text}, '"' ∉ key → (∀ c ∈ value, isNumeral c = true) →
      '"' ∉ separator → (printedMember key value separator).Plain := by
    intro key value separator hk hv hs
    refine ⟨hk, ?_⟩
    have hvq : '"' ∉ value := fun hmem => absurd (hv _ hmem) (by decide)
    simp [printedMember, hvq, hs]
  simp only [printedMembers, List.forall_mem_cons]
  exact ⟨hplain (by decide) (isNumeral_printedThreshold hlow) (by decide),
    hplain (by decide) (isNumeral_printedThreshold hhigh) (by decide),
    hplain (by decide) isNumeral_formatLlu (by decide),
    hplain (by decide) isNumeral_formatLlu (by decide),
    hplain (by decide) isNumeral_formatLlu (by decide), by simp⟩

/-- The lookup of the `n`-th key lands on its own line. -/
theorem findJsonValue_printed (n : ℕ) {back : List Member} {key value separator : Text}
    (hlow : config.lowThresholdPct.isfinite = true)
    (hhigh : config.highThresholdPct.isfinite = true)
    (h : (printedMembers config).drop n = printedMember key value separator :: back)
    (hkeys : ∀ m ∈ (printedMembers config).take n, m.key ≠ key) (hcolon : key.head? ≠ some ':')
    (hs : separator = ",\n  ".toList ∨ separator = "\n\x7d\n".toList) :
    ∃ rest, findJsonValue (configText config) key = some (' ' :: (value ++ rest)) ∧
      Ends rest := by
  have hplain := plain_printedMembers hlow hhigh
  have hmem : printedMember key value separator ∈ printedMembers config := by
    apply List.mem_of_mem_drop (i := n)
    rw [h]
    exact List.mem_cons_self
  have hafter : ∀ m ∈ (printedMembers config).take n, m.after ≠ key := by
    intro m hm hkey
    have hhead : m.after.head? = some ':' := by
      have hm' := List.mem_of_mem_take hm
      simp only [printedMembers, List.mem_cons, List.not_mem_nil, or_false] at hm'
      rcases hm' with rfl | rfl | rfl | rfl | rfl <;> rfl
    exact hcolon (hkey ▸ hhead)
  have hsplit : printedMembers config =
      (printedMembers config).take n ++ printedMember key value separator :: back := by
    rw [← h, List.take_append_drop]
  have hfind : findJsonValue (configText config) key =
      some ((' ' :: (value ++ separator)) ++ back.flatMap Member.text) := by
    rw [configText_eq, hsplit]
    exact findJsonValue_members (a := []) (by decide) (hplain _ hmem).key
      (fun m hm => hplain m (List.mem_of_mem_take hm)) hkeys hafter rfl rfl (by simp)
  rw [List.cons_append, List.append_assoc] at hfind
  refine ⟨_, hfind, ?_⟩
  rcases hs with rfl | rfl <;> exact stops_cons.mpr (by decide)

theorem parseFields_printed (hl : Moderate 1 low) (hh : Moderate 1 high)
    (hlow : config.lowThresholdPct = .finite low)
    (hhigh : config.highThresholdPct = .finite high) :
    parseFields (configText config) =
      ({ config with
          lowThresholdPct := .finite (roundTo 1 low)
          highThresholdPct := .finite (roundTo 1 high) }, false) := by
  have hfl : config.lowThresholdPct.isfinite = true := by rw [hlow, Double.isfinite_finite]
  have hfh : config.highThresholdPct.isfinite = true := by rw [hhigh, Double.isfinite_finite]
  obtain ⟨_, hlt, hends⟩ := findJsonValue_printed 0 hfl hfh rfl (by simp) (by decide) (.inl rfl)
  rw [hlow, printedThreshold_finite hl] at hlt
  have hlt' := parseDoubleField_printed hlt hends (rangeError_roundTo hl)
  obtain ⟨_, hht, hends⟩ := findJsonValue_printed 1 hfl hfh rfl
    (by simp [printedMembers, printedMember]) (by decide) (.inl rfl)
  rw [hhigh, printedThreshold_finite hh] at hht
  have hht' := parseDoubleField_printed hht hends (rangeError_roundTo hh)
  obtain ⟨_, hlf, hends⟩ := findJsonValue_printed 2 hfl hfh rfl
    (by simp [printedMembers, printedMember]) (by decide) (.inl rfl)
  have hlf' := parseU64Field_printed hlf hends
  obtain ⟨_, hhf, hends⟩ := findJsonValue_printed 3 hfl hfh rfl
    (by simp [printedMembers, printedMember]) (by decide) (.inl rfl)
  have hhf' := parseU64Field_printed hhf hends
  obtain ⟨_, hi, hends⟩ := findJsonValue_printed 4 hfl hfh rfl
    (by simp [printedMembers, printedMember]) (by decide) (.inr rfl)
  have hi' := parseU64Field_printed hi hends
  simp only [parseFields, hlt', hht', hlf', hhf', hi', Field.getD, Field.isInvalid, Bool.or_self]

/-- The reader takes back what the writer printed, thresholds rounded to a tenth. -/
theorem cpuConfigLoad_printed (hl : Moderate 1 low) (hh : Moderate 1 high)
    (hlow : config.lowThresholdPct = .finite low)
    (hhigh : config.highThresholdPct = .finite high) :
    cpuConfigLoad (.readable (configText config)) =
      (.ok (), { config with
        lowThresholdPct := .finite (roundTo 1 low)
        highThresholdPct := .finite (roundTo 1 high) }) := by
  have hfl : config.lowThresholdPct.isfinite = true := by rw [hlow, Double.isfinite_finite]
  have hfh : config.highThresholdPct.isfinite = true := by rw [hhigh, Double.isfinite_finite]
  simp only [cpuConfigLoad, readEntireFile, not_tooLarge_configText, Bool.false_eq_true, if_false,
    cString_of_noNul (noNul_configText hfl hfh), parseFields_printed hl hh hlow hhigh]

end Bytes

section RoundTrip
variable {config : CpuConfig} {n : ℕ}

theorem moderate_tenths (h : n ≤ 1000) : Moderate 1 (n / 10 : ℚ) := by
  have hn : (n : ℚ) ≤ 1000 := by exact_mod_cast h
  refine ⟨by decide, ?_⟩
  rw [abs_of_nonneg (by positivity)]
  linarith

theorem roundTo_tenths (n : ℕ) : roundTo 1 (n / 10 : ℚ) = n / 10 :=
  roundTo_of_units (n := n) (by push_cast; ring)

/-- A saved configuration with thresholds in tenths of a percent is loaded back unchanged. -/
theorem load_written (config : CpuConfig) (low high : ℕ) (hl : low ≤ 1000) (hh : high ≤ 1000)
    (hlow : config.lowThresholdPct = .finite (low / 10))
    (hhigh : config.highThresholdPct = .finite (high / 10))
    (outcome : WriteOutcome) (text : Text) (hwrite : cpuConfigWrite outcome config = .ok text) :
    cpuConfigLoad (.readable text) = (.ok (), config) := by
  have htext : text = configText config := by
    cases outcome <;> cases hwrite
    rfl
  rw [htext, cpuConfigLoad_printed (moderate_tenths hl) (moderate_tenths hh) hlow hhigh,
    roundTo_tenths, roundTo_tenths, ← hlow, ← hhigh]

/-- The counters may be the least and the largest there are. -/
theorem load_written_extremes :
    cpuConfigLoad (.readable (configText ⟨.finite (65 / 10), .finite (1000 / 10), 0,
      18446744073709551615, 500⟩)) =
      (.ok (), ⟨.finite (65 / 10), .finite (1000 / 10), 0, 18446744073709551615, 500⟩) :=
  load_written _ 65 1000 (by decide) (by decide) rfl rfl .stored _ rfl

end RoundTrip

end CpuSwitch.Config
