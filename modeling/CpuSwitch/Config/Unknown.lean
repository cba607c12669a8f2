import CpuSwitch.Config.Lookup

/-! What inserting a member with an unknown key does to a configuration. -/
namespace CpuSwitch.Config
open CLib FlatJson

/-- No key and no string value spells the key. -/
def Silent (key : Text) (members : List FlatJson.Member) : Prop :=
  ∀ member ∈ members, ¬ Spells key member.key.val ∧ ¬ ValueSpells key member.value

/-- Behind a string value, the next colon is the one of the key, or none comes. -/
def LeadsBack (key : Text) : List FlatJson.Member → Prop
  | [] => True
  | member :: _ => Spells key member.key.val ∧ ':' ∉ member.key.val

/-- What a new member between front and back does to the search for a key, by keys and strings. -/
inductive Diverts (key : Text) (new : FlatJson.Member) :
    List FlatJson.Member → List FlatJson.Member → Prop where
  | byKey {front back : List FlatJson.Member} (hfront : Silent key front)
      (hnew : Spells key new.key.val) : Diverts key new front back
  | byValue {front back : List FlatJson.Member} (hfront : Silent key front)
      (hnew : ValueSpells key new.value) (hback : ¬ LeadsBack key back) :
      Diverts key new front back
  -- The value in front of the position spells the key, and its next colon is now the new one.
  | behindValue {front back : List FlatJson.Member} {last : FlatJson.Member}
      (hfront : Silent key front) (hkey : ¬ Spells key last.key.val)
      (hlast : ValueSpells key last.value) : Diverts key new (front ++ [last]) back

/-- Where a search ends: behind the colon of a member, or behind a colon inside its key. -/
structure Place where
  index : ℕ
  inKey : Bool

/-- The place as a member in front of all others sees it. -/
def Place.next (place : Place) : Place := { place with index := place.index + 1 }

/-- The place after a member was inserted at the position. -/
def Place.past (position : ℕ) (place : Place) : Place :=
  if place.index < position then place else place.next

def Place.text (members : List FlatJson.Member) (place : Place) : Option Text :=
  members[place.index]?.bind fun member =>
    if place.inKey then (strchr member.key.val ':').map List.tail else some member.value.text

def strayPlace : List FlatJson.Member → Option Place
  | [] => none
  | member :: _ => some ⟨0, ':' ∈ member.key.val⟩

/-- The place of what `foundText` finds. -/
def foundPlace (key : Text) : List FlatJson.Member → Option Place
  | [] => none
  | member :: members =>
    if Spells key member.key.val then some ⟨0, false⟩
    else if ValueSpells key member.value then (strayPlace members).map Place.next
    else (foundPlace key members).map Place.next

section Insert
variable {key : Text} {front back : List FlatJson.Member} {new member : FlatJson.Member}
  {object : Object} {position : ℕ}

theorem silent_cons : Silent key (member :: front) ↔
    (¬ Spells key member.key.val ∧ ¬ ValueSpells key member.value) ∧ Silent key front :=
  List.forall_mem_cons

theorem silent_nil : Silent key [] := by
  simp [Silent]

theorem text_next (place : Option Place) :
    (place.map Place.next).bind (Place.text (member :: front)) = place.bind (Place.text front) := by
  cases place <;> rfl

theorem text_past (place : Place) :
    (place.past front.length).text (front ++ new :: back) = place.text (front ++ back) := by
  have hget : (front ++ new :: back)[(place.past front.length).index]? =
      (front ++ back)[place.index]? := by
    unfold Place.past
    split_ifs with hindex
    · rw [List.getElem?_append_left hindex, List.getElem?_append_left hindex]
    · have hnext : place.next.index = place.index + 1 := rfl
      have hbehind : place.index + 1 - front.length = place.index - front.length + 1 := by omega
      rw [hnext, List.getElem?_append_right (by omega), List.getElem?_append_right (by omega),
        hbehind, List.getElem?_cons_succ]
  have hkey : (place.past front.length).inKey = place.inKey := by
    unfold Place.past
    split_ifs <;> rfl
  rw [Place.text, Place.text, hget, hkey]

theorem strayText_eq : strayText back = (strayPlace back).bind (Place.text back) := by
  cases back with
  | nil => rfl
  | cons member back =>
    simp only [strayText, strayPlace, Place.text, Option.bind_some, List.getElem?_cons_zero,
      decide_eq_true_eq]
    cases hcolon : strchr member.key.val ':' with
    | none => rw [if_neg (strchr_eq_none_iff.mp hcolon)]
    | some rest =>
      have hmem : ':' ∈ member.key.val := by
        by_contra hnot
        cases hcolon.symm.trans (strchr_of_notMem hnot)
      rw [if_pos hmem, Option.map_some]

theorem foundText_eq (key : Text) (members : List FlatJson.Member) :
    foundText key members = (foundPlace key members).bind (Place.text members) := by
  induction members with
  | nil => rfl
  | cons member members ih =>
    rw [foundText, foundPlace]
    split_ifs
    · rfl
    · rw [text_next, strayText_eq]
    · rw [text_next, ih]

theorem past_next (position : ℕ) (place : Option Place) :
    (place.map Place.next).map (Place.past (position + 1)) =
      (place.map (Place.past position)).map Place.next := by
  cases place with
  | none => rfl
  | some place =>
    simp only [Option.map_some, Place.past, Place.next, Nat.add_lt_add_iff_right]
    split_ifs <;> rfl

theorem next_injective : Function.Injective (Option.map Place.next) := by
  apply Option.map_injective
  rintro ⟨i, a⟩ ⟨j, b⟩ h
  simpa [Place.next] using h

theorem first_ne_next (inKey : Bool) (place : Option Place) :
    some ⟨0, inKey⟩ ≠ place.map Place.next := by
  intro h
  cases place with
  | none => cases h
  | some place => simp [Place.next] at h

theorem past_zero : Place.past 0 = Place.next := rfl

theorem strayPlace_eq_iff : strayPlace back = foundPlace key back ↔ LeadsBack key back := by
  cases back with
  | nil => exact iff_of_true rfl trivial
  | cons member back =>
    rw [strayPlace, foundPlace, LeadsBack]
    split_ifs with hk hv
    · simp [hk]
    · exact iff_of_false (first_ne_next _ _) fun h => hk h.1
    · exact iff_of_false (first_ne_next _ _) fun h => hk h.1

theorem diverts_nil_iff : Diverts key new [] back ↔
    Spells key new.key.val ∨ ValueSpells key new.value ∧ ¬ LeadsBack key back := by
  constructor
  · intro h
    generalize hnil : ([] : List FlatJson.Member) = front at h
    cases h with
    | byKey _ hnew => exact Or.inl hnew
    | byValue _ hnew hback => exact Or.inr ⟨hnew, hback⟩
    | behindValue => simp at hnil
  · rintro (hnew | ⟨hnew, hback⟩)
    · exact .byKey silent_nil hnew
    · exact .byValue silent_nil hnew hback

/-- A member in front that does not spell the key is passed over, diverted or not. -/
theorem diverts_cons_iff : Diverts key new (member :: front) back ↔
    ¬ Spells key member.key.val ∧
      (ValueSpells key member.value ∧ front = [] ∨
        ¬ ValueSpells key member.value ∧ Diverts key new front back) := by
  constructor
  · intro h
    generalize hcons : member :: front = members at h
    cases h with
    | byKey hfront hnew =>
      subst hcons
      obtain ⟨⟨hk, hv⟩, hfront⟩ := silent_cons.mp hfront
      exact ⟨hk, Or.inr ⟨hv, .byKey hfront hnew⟩⟩
    | byValue hfront hnew hback =>
      subst hcons
      obtain ⟨⟨hk, hv⟩, hfront⟩ := silent_cons.mp hfront
      exact ⟨hk, Or.inr ⟨hv, .byValue hfront hnew hback⟩⟩
    | @behindValue before _ last hfront hkey hlast =>
      cases before with
      | nil =>
        cases hcons
        exact ⟨hkey, Or.inl ⟨hlast, rfl⟩⟩
      | cons first before =>
        cases hcons
        obtain ⟨⟨hk, hv⟩, hfront⟩ := silent_cons.mp hfront
        exact ⟨hk, Or.inr ⟨hv, .behindValue hfront hkey hlast⟩⟩
  · rintro ⟨hk, ⟨hv, rfl⟩ | ⟨hv, h⟩⟩
    · exact .behindValue silent_nil hk hv
    · cases h with
      | byKey hfront hnew => exact .byKey (silent_cons.mpr ⟨⟨hk, hv⟩, hfront⟩) hnew
      | byValue hfront hnew hback =>
        exact .byValue (silent_cons.mpr ⟨⟨hk, hv⟩, hfront⟩) hnew hback
      | behindValue hfront hkey hlast =>
        rw [← List.cons_append]
        exact .behindValue (silent_cons.mpr ⟨⟨hk, hv⟩, hfront⟩) hkey hlast

/-- A search is diverted just when it ends at another place than before. -/
theorem diverts_iff (key : Text) (new : FlatJson.Member) (front back : List FlatJson.Member) :
    Diverts key new front back ↔ foundPlace key (front ++ new :: back) ≠
      (foundPlace key (front ++ back)).map (Place.past front.length) := by
  induction front with
  | nil =>
    rw [diverts_nil_iff, List.nil_append, List.nil_append, foundPlace, List.length_nil, past_zero]
    by_cases hk : Spells key new.key.val
    · rw [if_pos hk]
      exact iff_of_true (Or.inl hk) (first_ne_next _ _)
    · rw [if_neg hk, or_iff_right hk]
      by_cases hv : ValueSpells key new.value
      · rw [if_pos hv, and_iff_right hv, ne_eq, next_injective.eq_iff, strayPlace_eq_iff]
      · rw [if_neg hv]
        exact iff_of_false (fun h => hv h.1) fun h => h rfl
  | cons member front ih =>
    rw [diverts_cons_iff, List.cons_append, List.cons_append, foundPlace, foundPlace,
      List.length_cons]
    by_cases hk : Spells key member.key.val
    · rw [if_pos hk, if_pos hk]
      exact iff_of_false (fun h => h.1 hk) fun h => h rfl
    · rw [if_neg hk, if_neg hk, and_iff_right hk]
      by_cases hv : ValueSpells key member.value
      · rw [if_pos hv, if_pos hv, past_next, ne_eq, next_injective.eq_iff]
        simp only [hv, true_and, not_true, false_and, or_false]
        cases front with
        | nil =>
          -- The next colon is in the new member instead of the one behind it.
          refine iff_of_true rfl ?_
          rw [List.nil_append, List.nil_append, List.length_nil, past_zero, strayPlace]
          cases strayPlace back with
          | none => simp
          | some place => simp [Place.next]
        | cons next front => exact iff_of_false (by simp) fun h => h rfl
      · rw [if_neg hv, if_neg hv, past_next, ne_eq, next_injective.eq_iff]
        simpa only [hv, false_and, not_false_iff, true_and, false_or] using ih

/-- A search that is not diverted does not notice the new member. -/
theorem foundText_insert (h : ¬ Diverts key new front back) :
    foundText key (front ++ new :: back) = foundText key (front ++ back) := by
  have hplace := not_not.mp (mt (diverts_iff key new front back).mpr h)
  rw [foundText_eq, foundText_eq, hplace]
  cases foundPlace key (front ++ back) with
  | none => rfl
  | some place => exact text_past place

theorem foundText_object_insert
    (h : ¬ Diverts key new (object.members.take position) (object.members.drop position)) :
    foundText key (object.insert position new).members = foundText key object.members := by
  rw [Object.insert, foundText_insert h, List.take_append_drop]

/-- Undiverted, the searches for the known keys all find the same. -/
theorem parseFields_insert (h : ∀ key, IsKnown key →
      ¬ Diverts key new (object.members.take position) (object.members.drop position)) :
    parseFields (object.insert position new).text = parseFields object.text := by
  apply parseFields_congr
  · intro t
    have hk := keyName_threshold t
    rw [parseDoubleField_object hk, parseDoubleField_object hk,
      foundText_object_insert (h _ (Or.inl ⟨t, rfl⟩))]
  · intro c
    have hk := keyName_counter c
    rw [parseU64Field_object hk, parseU64Field_object hk,
      foundText_object_insert (h _ (Or.inr ⟨c, rfl⟩))]

end Insert

/-- A member that diverts no search for a known key goes unnoticed while the text is small. -/
theorem insert_unknown_unnoticed (object : Object) (position : ℕ) (new : FlatJson.Member)
    (hok : (cpuConfigLoad (.readable object.text)).1 = .ok ())
    (hstrings : ∀ key, IsKnown key →
      ¬ Diverts key new (object.members.take position) (object.members.drop position)) :
    cpuConfigLoad (.readable (object.insert position new).text) =
        cpuConfigLoad (.readable object.text) ↔
      tooLarge (object.insert position new).text = false := by
  constructor
  · intro heq
    exact (load_ok_iff.mp ((congrArg Prod.fst heq).trans hok)).1
  · intro hsize
    rw [cpuConfigLoad_readable hsize, cpuConfigLoad_readable (load_ok_iff.mp hok).1, cString_object,
      cString_object, parseFields_insert hstrings]

/-- An object to insert into. -/
theorem exists_interval_object : ∃ object : Object, object.Distinct ∧
    LeadsBack (Counter.key .interval) object.members ∧ object.text =
      "\x7b\"interval_ms\":700\x7d".toList ∧
    ∀ new, (object.insert 0 new).text =
      '\x7b' :: (new.text ++ ",\"interval_ms\":700\x7d".toList) := by
  obtain ⟨n, hn, -⟩ := exists_number "700".toList (by decide) (by decide) (by decide)
  let member := compactMember ⟨_, stringBody_of_plain (Counter.key .interval) (by decide)⟩
    (.number n)
  have htext : member.text = "\"interval_ms\":700".toList := by
    rw [text_compactMember, Value.text, hn]
    decide
  have hclosing : closing ⟨[], by simp⟩ [member] = ",\"interval_ms\":700\x7d".toList := by
    simp only [closing, htext]
    decide
  have hcolon : ':' ∉ Counter.key .interval := by decide
  refine ⟨compactObject [member], ?_, ⟨Or.inl rfl, hcolon⟩, ?_, fun new => ?_⟩
  · simp [Object.Distinct, Object.pairs, compactObject]
  · simp only [compactObject, Object.text, htext, closing]
    decide
  · simp [compactObject, Object.insert, Object.text, hclosing]

/-- The string names the very key whose member comes next. -/
theorem insert_unknown_note :
    cpuConfigLoad (.readable "\x7b\"note\":\"interval_ms\",\"interval_ms\":700\x7d".toList) =
      cpuConfigLoad (.readable "\x7b\"interval_ms\":700\x7d".toList) := by
  obtain ⟨object, -, hback, hobject, hinsert⟩ := exists_interval_object
  let new := compactMember ⟨_, stringBody_of_plain "note".toList (by decide)⟩
    (.string ⟨_, stringBody_of_plain (Counter.key .interval) (by decide)⟩)
  have hnew : (object.insert 0 new).text =
      "\x7b\"note\":\"interval_ms\",\"interval_ms\":700\x7d".toList := by
    rw [hinsert, text_compactMember, Value.text]
    decide
  have hquiet : ∀ {key}, ¬ Spells key "note".toList →
      (Spells key (Counter.key .interval) → LeadsBack key object.members) →
      ¬ Diverts key new [] object.members := by
    intro key hk hleads hdiverts
    rw [diverts_nil_iff] at hdiverts
    rcases hdiverts with hspells | ⟨hspells, hback⟩
    · exact hk hspells
    · exact hback (hleads hspells)
  rw [← hnew, ← hobject]
  refine (insert_unknown_unnoticed object 0 new ?_ ?_).mpr ?_
  · rw [hobject]
    decide +kernel
  · rintro key (⟨t, rfl⟩ | ⟨c, rfl⟩)
    · refine hquiet (by cases t <;> decide) fun hspells => absurd hspells ?_
      cases t <;> decide
    · refine hquiet (by cases c <;> decide) fun hspells => ?_
      cases c with
      | lowFrequency => exact absurd hspells (by decide)
      | highFrequency => exact absurd hspells (by decide)
      | interval => exact hback
  · rw [hnew]
    decide +kernel

/-- A note that names a known key makes the reader take the next member for this key. -/
theorem insert_unknown_counterexample : ∃ (object : Object) (new : FlatJson.Member),
    object.Distinct ∧ ¬ IsKnown new.key.val ∧
    (object.insert 0 new).text =
      "\x7b\"note\":\"low_threshold_pct\",\"interval_ms\":700\x7d".toList ∧
    (cpuConfigLoad (.readable object.text)).1 = .ok () ∧
    (cpuConfigLoad (.readable object.text)).2.lowThresholdPct = .finite 6 ∧
    (cpuConfigLoad (.readable (object.insert 0 new).text)).2.lowThresholdPct = .finite 700 := by
  obtain ⟨object, hdistinct, -, hobject, hinsert⟩ := exists_interval_object
  let new := compactMember ⟨_, stringBody_of_plain "note".toList (by decide)⟩
    (.string ⟨_, stringBody_of_plain (Threshold.key .low) (by decide)⟩)
  have hnew : (object.insert 0 new).text =
      "\x7b\"note\":\"low_threshold_pct\",\"interval_ms\":700\x7d".toList := by
    rw [hinsert, text_compactMember, Value.text]
    decide
  refine ⟨object, new, hdistinct, ?_, hnew, ?_, ?_, ?_⟩
  · rintro (⟨t, ht⟩ | ⟨c, hc⟩)
    · revert ht
      cases t <;> decide
    · revert hc
      cases c <;> decide
  · rw [hobject]
    decide +kernel
  · rw [hobject]
    decide +kernel
  · rw [hnew]
    decide +kernel

end CpuSwitch.Config
