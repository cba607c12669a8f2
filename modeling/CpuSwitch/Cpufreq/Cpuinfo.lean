import CpuSwitch.CLib.Calls

/-! Who made the processor, according to /proc/cpuinfo. -/
namespace CpuSwitch.Cpufreq
open CLib

def vendorKey : Text := "vendor_id".toList

def vendorName : Text := "GenuineIntel".toList

/-- The test in the loop of `cpu_linux_is_intel`, on one buffer. -/
def namesIntel (buffer : Text) : Bool :=
  (strstr (cString buffer) vendorKey).isSome && (strstr (cString buffer) vendorName).isSome

/-- `cpu_linux_is_intel` of the contents of /proc/cpuinfo (`none`: it cannot be opened). -/
def cpuLinuxIsIntel : Option Text → Bool
  | none => false
  | some contents => (fgetsAll 512 contents).any namesIntel

variable {buffer contents : Text}

theorem namesIntel_iff :
    namesIntel buffer = true ↔ vendorKey <:+: cString buffer ∧ vendorName <:+: cString buffer := by
  rw [namesIntel, Bool.and_eq_true, isSome_strstr_iff, isSome_strstr_iff]

/-- A line that names the vendor. -/
def VendorLine (line : Text) : Prop := vendorKey <:+: line ∧ vendorName <:+: line

/-- The buffer of 512 bytes makes no processor an Intel one; and a vendor line makes it one if it
fits the buffer, so that over lines that fit the answer is exact. -/
theorem is_intel_of_lines (contents : Text) :
    (cpuLinuxIsIntel (some contents) = true → ∃ line ∈ getlines contents, VendorLine line) ∧
      ('\x00' ∉ contents → (∀ line ∈ getlines contents, VendorLine line → line.length < 512) →
        (cpuLinuxIsIntel (some contents) = true ↔
          ∃ line ∈ getlines contents, VendorLine line)) := by
  have hsound : cpuLinuxIsIntel (some contents) = true →
      ∃ line ∈ getlines contents, VendorLine line := by
    intro h
    obtain ⟨buffer, hbuffer, hnames⟩ := List.any_eq_true.mp h
    obtain ⟨line, hline, hinfix⟩ := infix_of_mem_fgetsCalls hbuffer
    obtain ⟨hkey, hname⟩ := namesIntel_iff.mp hnames
    have hpiece : cString buffer <:+: line := (List.takeWhile_prefix _).isInfix.trans hinfix
    exact ⟨line, hline, hkey.trans hpiece, hname.trans hpiece⟩
  refine ⟨hsound, fun hnul hfits => ⟨hsound, ?_⟩⟩
  rintro ⟨line, hline, hvendor⟩
  have hread : line ∈ fgetsAll 512 contents :=
    mem_fgetsCalls (by decide) le_rfl hline (hfits line hline hvendor)
  refine List.any_eq_true.mpr ⟨line, hread, namesIntel_iff.mpr ?_⟩
  rw [cString_of_noNul (notMem_of_mem_getlines hnul hline)]
  exact hvendor

def cpuinfo : Text := "processor\t: 0\nvendor_id\t: GenuineIntel\n".toList

theorem is_intel_of_lines_intel : cpuLinuxIsIntel (some cpuinfo) = true := by
  have hlines : getlines cpuinfo =
      ["processor\t: 0\n".toList, "vendor_id\t: GenuineIntel\n".toList] := by decide +kernel
  have hshort : (getlines cpuinfo).all (fun line => line.length < 512) = true := by decide +kernel
  refine ((is_intel_of_lines cpuinfo).2 (by decide +kernel) fun line hline _ => ?_).mpr
    ⟨"vendor_id\t: GenuineIntel\n".toList, ?_, by decide +kernel, by decide +kernel⟩
  · exact of_decide_eq_true (List.all_eq_true.mp hshort line hline)
  · rw [hlines]
    exact List.mem_cons_of_mem _ List.mem_cons_self

end CpuSwitch.Cpufreq
