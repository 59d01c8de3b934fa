import RemoteDebug.Sysfs

/-!
# Which device the span comes from

The name in front of the number is skipped without a look at it, and the failure of
`uio_get_sysfs_map_path` is an empty string to which the caller appends a file name all the same. So only a
path that ends in `/uio` and a number leads to its own device.
-/

namespace RemoteDebug

open CString

variable {files : Files} {drvPath dir : List UInt8} {n : Nat}

/-! ## Texts -/

theorem decimal_injective_natCast {i : Int} {n : Nat} (h : decimal i = decimal n) : i = n := by
  rw [decimal_natCast] at h
  unfold decimal at h
  split at h
  · have hminus : (0x2D : UInt8) ∈ ascii (Nat.repr n) := by
      rw [← h]
      exact List.mem_append_left _ (by decide)
    have hdigit := isdigit_of_mem_repr hminus
    cases hdigit
  · have habs := ascii_repr_injective h
    omega

theorem sysfsMapPath_injective {i : Int} {n : Nat} (h : sysfsMapPath i = sysfsMapPath n) : i = n := by
  unfold sysfsMapPath at h
  exact decimal_injective_natCast (List.append_cancel_left (List.append_cancel_right h))

theorem zero_notMem_sysfsMapPath (i : Int) : 0 ∉ sysfsMapPath i := by
  have hnumber : (0 : UInt8) ∉ decimal i := notMem_decimal (by decide) (by decide) i
  simp only [sysfsMapPath, List.mem_append, hnumber, or_false, not_or]
  decide

theorem length_sysfsMapPath (i : Int) : (sysfsMapPath i).length = 29 + (decimal i).length := by
  have hfront : (ascii "/sys/class/uio/uio").length = 18 := by decide
  have hback : (ascii "/maps/map0/").length = 11 := by decide
  simp only [sysfsMapPath, List.length_append, hfront, hback]
  omega

/-- The path of a map fits the buffer. -/
theorem snprintf_sysfsMapPath {i : Int} (h : i.natAbs < 10 ^ 10) :
    snprintf uioMapPathSize (sysfsMapPath i) = sysfsMapPath i := by
  have hlen := length_decimal (by omega) h
  apply List.take_of_length_le
  rw [length_sysfsMapPath, uioMapPathSize]
  omega

/-! ## A path that names a device -/

/-- The last slash is the one in front of `uio`, and the number starts four characters behind it. -/
theorem number_of_named (h : cstr drvPath = dir ++ ascii "/uio" ++ decimal n) :
    strrchr drvPath 0x2F = some dir.length ∧
      ∃ r, r.headD 0 = 0 ∧ drvPath.drop (dir.length + 4) = ascii (Nat.repr n) ++ r := by
  have hnumber : (0x2F : UInt8) ∉ decimal n := notMem_decimal (by decide) (by decide) n
  rw [decimal_natCast] at h hnumber
  have hslash : (0x2F : UInt8) ∉ ascii "uio" ++ ascii (Nat.repr n) := by
    rw [List.mem_append, not_or]
    exact ⟨by decide, hnumber⟩
  have hlen : (dir ++ ascii "/uio").length = dir.length + 4 := by
    rw [List.length_append]
    rfl
  constructor
  · rw [strrchr, h, List.append_assoc]
    exact lastIndexOf_append hslash dir
  · by_cases hmem : 0 ∈ drvPath
    · obtain ⟨r, hr⟩ := exists_eq_cstr_append hmem
      refine ⟨0 :: r, rfl, ?_⟩
      rw [hr, h, List.append_assoc, List.drop_left' hlen]
    · refine ⟨[], rfl, ?_⟩
      rw [← cstr_eq_self hmem, h, List.drop_left' hlen, List.append_nil]

/-- What the map path is then, and that nothing behind the NUL is looked at. -/
theorem mapPath_of_named (h : cstr drvPath = dir ++ ascii "/uio" ++ decimal n) (size : Nat) :
    uioGetSysfsMapPath drvPath size =
      (snprintf size (sysfsMapPath
        ((((if ulongMax < n then ulongMax else n) % 2 ^ 32 : Nat) : Int).bmod (2 ^ 32))),
        (cstr drvPath).length + 1) := by
  obtain ⟨hslash, r, hr, hdrop⟩ := number_of_named h
  have hlen : (cstr drvPath).length = dir.length + 4 + (ascii (Nat.repr n)).length := by
    rw [h, decimal_natCast, List.length_append, List.length_append]
    rfl
  have hend : drvPath.getD (dir.length + 4 + (ascii (Nat.repr n)).length) 0 = 0 := by
    rw [List.getD_eq_getElem?_getD, ← List.getElem?_drop, hdrop,
      List.getElem?_append_right le_rfl, Nat.sub_self, ← List.head?_eq_getElem?]
    simpa [List.headD_eq_head?_getD] using hr
  simp only [uioGetSysfsMapPath, hslash, hdrop, strtoul_ascii_repr n hr, hend, hlen]
  simp [Nat.add_assoc]

/-- A file with nothing but the name. -/
theorem uioSysfsUpdate_of_mapPath {i : Int} {examined : Nat}
    (h : uioGetSysfsMapPath drvPath uioMapPathSize = (sysfsMapPath i, examined)) (files : Files) :
    uioSysfsUpdate files drvPath =
      ⟨(uioGetSysfsMapFileToUint64 files (sysfsMapPath i ++ ascii "size")).1,
        (uioGetSysfsMapFileToUint64 files (sysfsMapPath i ++ ascii "size")).2, examined⟩ := by
  have hname : (ascii "size").take uioMapPathSize = ascii "size" := by decide
  have hzero : (0 : UInt8) ∉ sysfsMapPath i ++ ascii "size" := by
    rw [List.mem_append, not_or]
    exact ⟨zero_notMem_sysfsMapPath i, by decide⟩
  simp only [uioSysfsUpdate, h, hname, cstr_eq_self hzero]

/-! ## The span -/

theorem bmod_natAbs (m : Nat) : ((m : Int).bmod (2 ^ 32)).natAbs < 10 ^ 10 := by
  have hle := Int.bmod_lt (x := (m : Int)) (m := 2 ^ 32) (by decide)
  have hge := Int.le_bmod (x := (m : Int)) (m := 2 ^ 32) (by decide)
  omega

/-- The files of a path that names a device. -/
theorem update_of_named (h : cstr drvPath = dir ++ ascii "/uio" ++ decimal n) (files : Files) :
    ∃ i : Int, i = ((((if ulongMax < n then ulongMax else n) % 2 ^ 32 : Nat) : Int).bmod (2 ^ 32)) ∧
      uioSysfsUpdate files drvPath =
        ⟨(uioGetSysfsMapFileToUint64 files (sysfsMapPath i ++ ascii "size")).1,
          (uioGetSysfsMapFileToUint64 files (sysfsMapPath i ++ ascii "size")).2,
          (cstr drvPath).length + 1⟩ := by
  refine ⟨_, rfl, uioSysfsUpdate_of_mapPath ?_ files⟩
  rw [mapPath_of_named h, snprintf_sysfsMapPath (bmod_natAbs _)]

/-- A number that fits `int` is printed as it stands in the path. -/
theorem index_eq_iff :
    ((((if ulongMax < n then ulongMax else n) % 2 ^ 32 : Nat) : Int).bmod (2 ^ 32)) = n ↔
      n < 2 ^ 31 := by
  unfold ulongMax
  split <;> constructor <;> intro h <;> simp only [Int.bmod_def] at * <;> omega

theorem spanOfDevice_of_named (h : cstr drvPath = dir ++ ascii "/uio" ++ decimal n) (hn : n < 2 ^ 31)
    (files : Files) : SpanOfDevice files drvPath (uioSysfsUpdate files drvPath) := by
  obtain ⟨i, hi, hupdate⟩ := update_of_named h files
  rw [index_eq_iff.mpr hn] at hi
  subst hi
  rw [hupdate]
  refine ⟨le_rfl, ?_⟩
  unfold uioGetSysfsMapFileToUint64
  split
  · exact Or.inr ⟨rfl, rfl, fun p => rfl⟩
  · next number hfile => exact Or.inl ⟨n, number, ⟨dir, h⟩, hfile, rfl, rfl⟩

/-- **The span is derived only from the named device**, whatever files there are, if and only if the path
ends in `/uio` and the decimal number of a device, which is below `2 ^ 31`. -/
theorem span_of_device_iff (drvPath : List UInt8) :
    (∀ files, SpanOfDevice files drvPath (uioSysfsUpdate files drvPath)) ↔
      ∃ n < 2 ^ 31, NamesDevice (cstr drvPath) n := by
  constructor
  · intro hall
    have hspan := hall fun _ => some (some 1)
    rcases hspan.source with ⟨n, number, ⟨dir, hpath⟩, -, hopened, -⟩ | ⟨hnone, -, -⟩
    · refine ⟨n, ?_, dir, hpath⟩
      obtain ⟨i, hi, hupdate⟩ := update_of_named hpath fun _ => some (some 1)
      rw [hupdate] at hopened
      have hmap : sysfsMapPath i = sysfsMapPath n := by
        have hfile := Option.some.inj hopened
        exact List.append_cancel_right hfile
      rw [← index_eq_iff, ← hi]
      exact sysfsMapPath_injective hmap
    · cases hnone
  · rintro ⟨n, hn, dir, hpath⟩ files
    exact spanOfDevice_of_named hpath hn files

/-- A path without a slash opens `size` in the working directory, `/dev/mem` reads the size of `uio0`, and
of `/dev/u` a character behind the NUL is looked at. -/
theorem span_of_other_device :
    ¬ SpanOfDevice (fun _ => some (some 1)) (ascii "uio0")
        (uioSysfsUpdate (fun _ => some (some 1)) (ascii "uio0")) ∧
      (uioSysfsUpdate (fun _ => some (some 1)) (ascii "/dev/mem")).opened = some (deviceSizeFile 0) ∧
      (cstr (ascii "/dev/u")).length + 1 <
        (uioSysfsUpdate (fun _ => some (some 1)) (ascii "/dev/u")).examined := by
  refine ⟨?_, by decide, by decide⟩
  intro h
  rcases h.source with ⟨n, number, -, -, hopened, -⟩ | ⟨hnone, -, -⟩
  · have hlen := congrArg List.length (Option.some.inj hopened)
    rw [deviceSizeFile, List.length_append, length_sysfsMapPath] at hlen
    have hsize : (cstr ((uioGetSysfsMapPath (ascii "uio0") uioMapPathSize).1 ++
        (ascii "size").take uioMapPathSize)).length = 4 := by decide
    omega
  · cases hnone

end RemoteDebug
