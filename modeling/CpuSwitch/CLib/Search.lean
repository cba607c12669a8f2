import CpuSwitch.CLib.Text

/-! `strstr` and `strchr` on a text cut into pieces. -/
namespace CLib
variable {front rest needle text : Text} {c d : Char}

theorem strstr_cons_of_ne (h : c ≠ d) :
    strstr (c :: text) (d :: needle) = strstr text (d :: needle) := by
  rw [strstr]
  simp [List.isPrefixOf, Ne.symm h]

theorem strstr_append_of_notMem (h : d ∉ front) :
    strstr (front ++ rest) (d :: needle) = strstr rest (d :: needle) := by
  induction front with
  | nil => rfl
  | cons c front ih =>
    have hc : c ≠ d := by
      rintro rfl
      exact h List.mem_cons_self
    rw [List.cons_append, strstr_cons_of_ne hc, ih fun hm => h (List.mem_cons_of_mem _ hm)]

theorem strstr_self_append : strstr (needle ++ rest) needle = some (needle ++ rest) := by
  unfold strstr
  rw [if_pos (List.isPrefixOf_iff_prefix.mpr (List.prefix_append needle rest))]

theorem strstr_nil (h : needle ≠ []) : strstr [] needle = none := by
  have hprefix : ¬ needle.isPrefixOf [] = true := by
    rw [List.isPrefixOf_iff_prefix, List.prefix_nil]
    exact h
  rw [strstr, if_neg hprefix]

theorem strstr_cons_of_not_prefix (h : ¬ needle <+: c :: text) :
    strstr (c :: text) needle = strstr text needle := by
  rw [strstr, if_neg (mt List.isPrefixOf_iff_prefix.mp h)]

/-- A prefix without a byte of the text ends before that byte. -/
theorem prefix_of_notMem (hc : c ∉ needle) (h : needle <+: front ++ c :: rest) :
    needle <+: front := by
  induction needle generalizing front with
  | nil => exact List.nil_prefix
  | cons d needle ih =>
    cases front with
    | nil =>
      have hd : d = c := (List.cons_prefix_cons.mp h).1
      subst hd
      exact (hc List.mem_cons_self).elim
    | cons e front =>
      obtain ⟨hd, htail⟩ := List.cons_prefix_cons.mp h
      exact List.cons_prefix_cons.mpr ⟨hd, ih (fun hm => hc (List.mem_cons_of_mem _ hm)) htail⟩

/-- A piece without the needle, closed by a byte that the needle lacks, is passed over. -/
theorem strstr_piece (hc : c ∉ needle) (hne : needle ≠ []) (h : ¬ needle <:+: front) :
    strstr (front ++ c :: rest) needle = strstr rest needle := by
  induction front with
  | nil =>
    refine strstr_cons_of_not_prefix fun hprefix => ?_
    exact hne (List.prefix_nil.mp (prefix_of_notMem hc hprefix))
  | cons d front ih =>
    have hprefix : ¬ needle <+: d :: (front ++ c :: rest) :=
      fun hprefix => h (prefix_of_notMem hc hprefix : needle <+: d :: front).isInfix
    rw [List.cons_append, strstr_cons_of_not_prefix hprefix,
      ih fun hinfix => h (List.infix_cons hinfix)]

theorem strchr_append_of_notMem (h : c ∉ front) : strchr (front ++ text) c = strchr text c := by
  have hd : (front ++ text).dropWhile (· ≠ c) = text.dropWhile (· ≠ c) := by
    apply List.dropWhile_append_of_pos
    intro d hd
    have hne : d ≠ c := fun he => h (he ▸ hd)
    simpa using hne
  rw [strchr, strchr, hd]

theorem strchr_of_notMem (h : c ∉ text) : strchr text c = none := by
  have hnil : strchr (text ++ []) c = strchr [] c := strchr_append_of_notMem h
  rw [List.append_nil] at hnil
  exact hnil

theorem strchr_append (h : c ∉ front) : strchr (front ++ c :: rest) c = some (c :: rest) := by
  rw [strchr_append_of_notMem h, strchr]
  simp

theorem strchr_eq_none_iff : strchr text c = none ↔ c ∉ text := by
  constructor
  · intro hnone hmem
    obtain ⟨front, rest, rfl, hfront⟩ := List.eq_append_cons_of_mem hmem
    rw [strchr_append hfront] at hnone
    cases hnone
  · exact strchr_of_notMem

/-- A hit splits the text at the first occurrence. -/
theorem strchr_eq_some (h : strchr text c = some rest) :
    ∃ front more, text = front ++ c :: more ∧ rest = c :: more ∧ c ∉ front := by
  have hmem : c ∈ text := by
    by_contra hnot
    rw [strchr_of_notMem hnot] at h
    cases h
  obtain ⟨front, more, rfl, hfront⟩ := List.eq_append_cons_of_mem hmem
  rw [strchr_append hfront] at h
  cases h
  exact ⟨front, more, rfl, rfl, hfront⟩

end CLib
