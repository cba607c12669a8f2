import CpuSwitch.CLib.Search
import CpuSwitch.Config.Model

/-! The substring search of the JSON reader on a text made of quoted keys and the rest. -/
namespace CpuSwitch.Config
open CLib

/-- A key and everything up to the next key. -/
structure Member where
  key : Text
  after : Text

def Member.text (member : Member) : Text := quoted member.key ++ member.after

/-- No quotes but the ones around the key. -/
structure Member.Plain (member : Member) : Prop where
  key : '"' ∉ member.key
  after : '"' ∉ member.after

section Search
variable {a b key pre rest text json : Text} {front back : List Member} {member : Member}

/-- Two quote-free texts, each closed by a quote, are prefixes of each other only when equal. -/
theorem eq_of_prefix_closed (ha : '"' ∉ a) (hk : '"' ∉ key)
    (h : key ++ ['"'] <+: a ++ '"' :: b) : key = a := by
  induction key generalizing a with
  | nil =>
    cases a with
    | nil => rfl
    | cons c a =>
      have hc : '"' = c := (List.cons_prefix_cons.mp h).1
      subst hc
      exact (ha List.mem_cons_self).elim
  | cons d key ih =>
    cases a with
    | nil =>
      have hd : d = '"' := (List.cons_prefix_cons.mp h).1
      subst hd
      exact (hk List.mem_cons_self).elim
    | cons c a =>
      obtain ⟨hcd, htail⟩ := List.cons_prefix_cons.mp h
      rw [hcd, ih (fun hm => ha (List.mem_cons_of_mem _ hm))
        (fun hm => hk (List.mem_cons_of_mem _ hm)) htail]

/-- A quoted text other than the key is passed over up to its closing quote. -/
theorem strstr_quoted_of_ne (ha : '"' ∉ a) (hk : '"' ∉ key) (hne : a ≠ key) :
    strstr ('"' :: (a ++ '"' :: b)) (quoted key) = strstr ('"' :: b) (quoted key) := by
  have hprefix : ¬ (quoted key).isPrefixOf ('"' :: (a ++ '"' :: b)) = true := by
    intro h
    have h' : key ++ ['"'] <+: a ++ '"' :: b :=
      (List.cons_prefix_cons.mp (List.isPrefixOf_iff_prefix.mp h)).2
    exact hne (eq_of_prefix_closed ha hk h').symm
  rw [strstr, if_neg hprefix]
  exact strstr_append_of_notMem ha

/-- The search lands on the first member with the key. -/
theorem strstr_members (hpre : '"' ∉ pre) (hk : '"' ∉ key)
    (hplain : ∀ m ∈ front, m.Plain) (hkeys : ∀ m ∈ front, m.key ≠ key)
    (hafter : ∀ m ∈ front, m.after ≠ key) (hm : member.key = key) :
    strstr (pre ++ (front ++ member :: back).flatMap Member.text) (quoted key) =
      some ((member :: back).flatMap Member.text) := by
  have hskip : ∀ text, strstr (pre ++ text) (quoted key) = strstr text (quoted key) :=
    fun _ => strstr_append_of_notMem hpre
  rw [hskip]
  clear hskip hpre
  induction front with
  | nil =>
    rw [List.nil_append, List.flatMap_cons, Member.text, hm, List.append_assoc]
    exact strstr_self_append
  | cons m front ih =>
    have hpl := hplain m List.mem_cons_self
    -- Whatever follows this member starts with the quote of the next one.
    obtain ⟨rest, hrest⟩ : ∃ rest, (front ++ member :: back).flatMap Member.text = '"' :: rest := by
      cases front <;> exact ⟨_, rfl⟩
    have hrec := ih (fun n hn => hplain n (List.mem_cons_of_mem _ hn))
      (fun n hn => hkeys n (List.mem_cons_of_mem _ hn))
      (fun n hn => hafter n (List.mem_cons_of_mem _ hn))
    have hone : (m :: front ++ member :: back).flatMap Member.text =
        '"' :: (m.key ++ '"' :: (m.after ++ '"' :: rest)) := by
      rw [List.cons_append, List.flatMap_cons, hrest]
      simp [Member.text, quoted]
    rw [hone, strstr_quoted_of_ne hpl.key hk (hkeys m List.mem_cons_self),
      strstr_quoted_of_ne hpl.after hk (hafter m List.mem_cons_self), ← hrest, hrec]

theorem findJsonValue_congr (h : strstr json (quoted key) = strstr text (quoted key)) :
    findJsonValue json key = findJsonValue text key := by
  rw [findJsonValue, findJsonValue, h]

theorem findJsonValue_of_hit (h : strstr json (quoted key) = some (quoted key ++ rest)) :
    findJsonValue json key = (strchr rest ':').map List.tail := by
  rw [findJsonValue, h, Option.bind_some, List.drop_left]

theorem findJsonValue_append (h : '"' ∉ pre) :
    findJsonValue (pre ++ text) key = findJsonValue text key :=
  findJsonValue_congr (strstr_append_of_notMem h)

/-- The value found for a key is what follows the colon of its member. -/
theorem findJsonValue_members (hpre : '"' ∉ pre) (hk : '"' ∉ key)
    (hplain : ∀ m ∈ front, m.Plain) (hkeys : ∀ m ∈ front, m.key ≠ key)
    (hafter : ∀ m ∈ front, m.after ≠ key) (hm : member.key = key)
    (ha : member.after = a ++ ':' :: b) (hcolon : ':' ∉ a) :
    findJsonValue (pre ++ (front ++ member :: back).flatMap Member.text) key =
      some (b ++ back.flatMap Member.text) := by
  have hhit : strstr (pre ++ (front ++ member :: back).flatMap Member.text) (quoted key) =
      some (quoted key ++ (a ++ ':' :: (b ++ back.flatMap Member.text))) := by
    rw [strstr_members hpre hk hplain hkeys hafter hm, List.flatMap_cons, Member.text, hm, ha]
    simp
  rw [findJsonValue_of_hit hhit, strchr_append hcolon]
  rfl

end Search

end CpuSwitch.Config
