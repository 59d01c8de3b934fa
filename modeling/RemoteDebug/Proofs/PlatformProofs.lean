import RemoteDebug.Platform
import RemoteDebug.Lib.Runs

/-!
# The resources of the platform

What an orderly lifecycle holds between two calls: the interrupt thread if it runs, and the device with
its mapping from the first successful `fpga_platform_init` on.
-/

namespace RemoteDebug

open Ledger Runs

variable {swModel : Bool} {p p' : Platform} {args : UioArgs} {res : UioResults} {ret : Bool}

/-- The device while it is mapped, and the interrupt thread while it runs. -/
def Platform.holds (p : Platform) : Multiset Resource :=
  (match p.mmapPtr with
    | none => 0
    | some addr => {.mapping addr, .fd p.drvHandle}) +
  if p.threadRuns then {.thread p.intThreadId} else 0

/-- The trace settles with what the variables name. -/
structure PlatformInv (p : Platform) : Prop where
  settled : settle p.uses 0 = some p.holds
  id : p.threadRuns = true → p.intThreadId ≠ 0

theorem platformInv_static : PlatformInv .static := ⟨rfl, fun h => by cases h⟩

theorem threadRuns_use (p : Platform) (u : Use Resource) : (p.use u).threadRuns =
    match u with
    | .acquire (.thread _) => true
    | .release (.thread _) => false
    | _ => p.threadRuns := by
  unfold Platform.use Platform.threadRuns
  rw [List.foldl_append]
  cases u with
  | acquire r => cases r <;> rfl
  | release r => cases r <;> rfl

theorem settle_use (p : Platform) (u : Use Resource) :
    settle (p.use u).uses 0 = (settle p.uses 0).bind (settle [u]) := settle_append _ _ _

theorem threadRuns_congr (huses : p'.uses = p.uses) : p'.threadRuns = p.threadRuns := by
  unfold Platform.threadRuns
  rw [huses]

/-- What is not a resource may change, and the handle while nothing is mapped. -/
theorem PlatformInv.same (h : PlatformInv p) (huses : p'.uses = p.uses)
    (hid : p'.intThreadId = p.intThreadId) (hmmap : p'.mmapPtr = p.mmapPtr)
    (hfd : p.mmapPtr = none ∨ p'.drvHandle = p.drvHandle) : PlatformInv p' := by
  have hruns := threadRuns_congr huses
  have hholds : p'.holds = p.holds := by
    unfold Platform.holds
    rw [hmmap, hruns, hid]
    rcases hfd with hnone | hfd
    · rw [hnone]
    · rw [hfd]
  exact ⟨by rw [huses, hholds, h.settled], fun hr => hid ▸ h.id (hruns ▸ hr)⟩

/-- A descriptor that is closed at once. -/
theorem PlatformInv.opened (h : PlatformInv p) (fd : Int) :
    PlatformInv ((p.use (.acquire (.fd fd))).use (.release (.fd fd))) := by
  have hruns : ((p.use (.acquire (.fd fd))).use (.release (.fd fd))).threadRuns = p.threadRuns := by
    rw [threadRuns_use, threadRuns_use]
  refine ⟨?_, fun hr => h.id (hruns ▸ hr)⟩
  rw [settle_use, settle_use, h.settled]
  unfold Platform.holds
  rw [hruns]
  simp [settle, Platform.use]

/-- A device that is opened and mapped where nothing was. -/
theorem PlatformInv.mapped (h : PlatformInv p) (hfree : p.mmapPtr = none) (fd : Int) (addr : Nat)
    (base : Option Nat) :
    PlatformInv { (p.use (.acquire (.fd fd))).use (.acquire (.mapping addr)) with
      drvHandle := fd
      mmapPtr := some addr
      baseAddress := base } := by
  have hruns : ((p.use (.acquire (.fd fd))).use (.acquire (.mapping addr))).threadRuns
      = p.threadRuns := by
    rw [threadRuns_use, threadRuns_use]
  have hsettled : settle ((p.use (.acquire (.fd fd))).use (.acquire (.mapping addr))).uses 0
      = some (.mapping addr ::ₘ .fd fd ::ₘ p.holds) := by
    rw [settle_use, settle_use, h.settled]
    rfl
  refine ⟨hsettled.trans ?_, fun hr => h.id (hruns.symm.trans hr)⟩
  unfold Platform.holds
  rw [hfree, Multiset.zero_add, ← hruns]
  exact congrArg some (by simp [Platform.threadRuns, Platform.use])

theorem uioConfigure_frame (h : uioConfigure swModel args res p = some p') :
    p'.uses = p.uses ∧ p'.intThreadId = p.intThreadId ∧ p'.mmapPtr = p.mmapPtr ∧
      p'.drvHandle = p.drvHandle := by
  unfold uioConfigure uioUpdateBasedOnSysfs at h
  split at h
  · obtain ⟨path, -, rfl⟩ := Option.map_eq_some_iff.mp h
    exact ⟨rfl, rfl, rfl, rfl⟩
  · obtain rfl := Option.some.inj h
    exact ⟨rfl, rfl, rfl, rfl⟩

/-- A thread that is created when none runs. -/
theorem PlatformInv.thread (h : PlatformInv p) (hvalid : res.Valid) (hruns : p.threadRuns = false)
    (hsync : res.sync = true) (hcreate : res.create = true) :
    PlatformInv (uioCreateInterruptThread res p).2 := by
  have hsettled := h.settled
  unfold uioCreateInterruptThread
  rw [if_pos hsync]
  dsimp only
  rw [if_pos hcreate]
  refine ⟨?_, fun _ => hvalid.threadId hcreate⟩
  rw [settle_use]
  show (settle p.uses 0).bind _ = _
  rw [hsettled]
  unfold Platform.holds
  rw [hruns, threadRuns_use]
  simp only [settle, Platform.use, Bool.false_eq_true, if_false, if_true, Option.bind_some,
    Multiset.add_zero]
  rw [← Multiset.singleton_add, Multiset.add_comm]

/-- What the stages of the device come to. -/
theorem uioStages_cases (swModel : Bool) (res : UioResults) (p : Platform) :
    (swModel = true ∧ uioStages swModel res p = (true, { p with baseAddress := some res.malloc })) ∨
    (swModel = false ∧ res.openFd = -1 ∧
      uioStages swModel res p = (false, { p with drvHandle := res.openFd })) ∨
    (swModel = false ∧ res.openFd ≠ -1 ∧ res.mmap = none ∧
      uioStages swModel res p = (false,
        { (p.use (.acquire (.fd res.openFd))).use (.release (.fd res.openFd)) with
          drvHandle := res.openFd
          mmapPtr := none })) ∨
    ∃ addr base, swModel = false ∧ res.openFd ≠ -1 ∧ res.mmap = some addr ∧
      uioStages swModel res p = (true,
        { (p.use (.acquire (.fd res.openFd))).use (.acquire (.mapping addr)) with
          drvHandle := res.openFd
          mmapPtr := some addr
          baseAddress := base }) := by
  cases swModel with
  | true => exact .inl ⟨rfl, rfl⟩
  | false =>
    by_cases hopen : res.openFd = -1
    · refine .inr (.inl ⟨rfl, hopen, ?_⟩)
      simp [uioStages, uioOpenDriver, hopen]
    · cases hmmap : res.mmap with
      | none =>
        refine .inr (.inr (.inl ⟨rfl, hopen, rfl, ?_⟩))
        simp [uioStages, uioOpenDriver, uioMapMmio, hopen, hmmap, Platform.use]
      | some addr =>
        refine .inr (.inr (.inr ⟨addr, if p.singleComponentMode then some (addr + p.startAddr)
          else p.baseAddress, rfl, hopen, rfl, ?_⟩))
        by_cases hsingle : p.singleComponentMode = true
        · simp [uioStages, uioOpenDriver, uioMapMmio, uioScanInterfaces, hopen, hmmap, Platform.use,
            hsingle]
        · simp [uioStages, uioOpenDriver, uioMapMmio, uioScanInterfaces, hopen, hmmap, Platform.use,
            hsingle]

/-- The stages of the device where nothing is mapped yet: a descriptor that cannot be mapped is closed
again, and what is mapped is held. -/
theorem PlatformInv.stages (h : PlatformInv p) (hfree : swModel = false → p.mmapPtr = none)
    (res : UioResults) :
    PlatformInv (uioStages swModel res p).2 ∧
      (uioStages swModel res p).2.singleComponentMode = p.singleComponentMode ∧
      (uioStages swModel res p).2.threadRuns = p.threadRuns ∧
      ((uioStages swModel res p).1 = true → swModel = false →
        res.openFd ≠ -1 ∧ res.mmap.isSome = true) := by
  rcases uioStages_cases swModel res p with ⟨rfl, heq⟩ | ⟨rfl, -, heq⟩ | ⟨rfl, -, -, heq⟩ |
    ⟨addr, base, rfl, hopen, hmmap, heq⟩
  · rw [heq]
    exact ⟨h.same rfl rfl rfl (.inr rfl), rfl, rfl, fun _ hf => by cases hf⟩
  · rw [heq]
    exact ⟨h.same rfl rfl rfl (.inl (hfree rfl)), rfl, rfl, fun hf => by cases hf⟩
  · have hruns : ((p.use (.acquire (.fd res.openFd))).use (.release (.fd res.openFd))).threadRuns
        = p.threadRuns := by
      rw [threadRuns_use, threadRuns_use]
    rw [heq]
    exact ⟨(h.opened res.openFd).same rfl rfl (hfree rfl).symm (.inl (hfree rfl)), rfl, hruns,
      fun hf => by cases hf⟩
  · have hruns : ((p.use (.acquire (.fd res.openFd))).use (.acquire (.mapping addr))).threadRuns
        = p.threadRuns := by
      rw [threadRuns_use, threadRuns_use]
    rw [heq]
    exact ⟨h.mapped (hfree rfl) res.openFd addr base, rfl, hruns,
      fun _ _ => ⟨hopen, by rw [hmmap]; rfl⟩⟩

/-- An orderly `fpga_platform_init`, stage by stage. -/
theorem PlatformInv.init (h : PlatformInv p) (hvalid : res.Valid)
    (hguard : PlatformOrderly swModel p (.init args res))
    (hinit : fpgaPlatformInit swModel args res p = some (ret, p')) :
    PlatformInv p' ∧ (ret = true → ∃ p1, StagesSucceed swModel args res p p1) := by
  obtain ⟨p1, hconfig, hx⟩ := Option.map_eq_some_iff.mp hinit
  obtain ⟨huses, hid, hmmap, hfd⟩ := uioConfigure_frame hconfig
  have h1 : PlatformInv p1 := h.same huses hid hmmap (.inr hfd)
  by_cases hargs : uioValidateArgs p1 = true
  · rw [if_pos hargs] at hx
    obtain ⟨hfree, hthread⟩ := hguard p1 hconfig hargs
    obtain ⟨hinv, hmode, hruns, hdevice⟩ := h1.stages (fun hsw => hmmap.trans (hfree hsw)) res
    generalize uioStages swModel res p1 = x at hx hinv hmode hruns hdevice
    dsimp only at hx
    by_cases hstages : x.1 = true
    · rw [if_pos hstages, hmode] at hx
      by_cases hsingle : p1.singleComponentMode = true
      · obtain ⟨hsync, hcreate, hnone⟩ := hthread (hdevice hstages) hsingle
        rw [if_pos hsingle] at hx
        obtain ⟨rfl, rfl⟩ := Prod.mk.inj hx
        have hidle : x.2.threadRuns = false := hruns.trans ((threadRuns_congr huses).trans hnone)
        exact ⟨hinv.thread hvalid hidle hsync hcreate,
          fun _ => ⟨p1, hconfig, hargs, hdevice hstages, fun _ => ⟨hsync, hcreate⟩⟩⟩
      · rw [if_neg hsingle] at hx
        obtain ⟨rfl, rfl⟩ := Prod.mk.inj hx
        exact ⟨hinv, fun _ => ⟨p1, hconfig, hargs, hdevice hstages, fun hs => absurd hs hsingle⟩⟩
    · rw [if_neg hstages] at hx
      obtain ⟨rfl, rfl⟩ := Prod.mk.inj hx
      exact ⟨hinv, fun hret => by cases hret⟩
  · rw [if_neg hargs] at hx
    obtain ⟨rfl, rfl⟩ := Prod.mk.inj hx
    exact ⟨h1, fun hret => by cases hret⟩

/-- What `fpga_platform_cleanup` releases. -/
theorem fpgaPlatformCleanup_uses (p : Platform) : ∃ join close,
    (fpgaPlatformCleanup p).uses = p.uses ++ (join ++ close) ∧
      (join = if p.intThreadId ≠ 0 then [.release (.thread p.intThreadId)] else []) ∧
      close = if 0 ≤ p.drvHandle then [.release (.fd p.drvHandle)] else [] := by
  refine ⟨_, _, ?_, rfl, rfl⟩
  unfold fpgaPlatformCleanup
  by_cases hid : p.intThreadId ≠ 0
  · by_cases hfd : 0 ≤ p.drvHandle
    · simp [hid, hfd, Platform.use]
    · simp [hid, hfd, Platform.use]
  · by_cases hfd : 0 ≤ p.drvHandle
    · simp [hid, hfd, Platform.use]
    · simp [hid, hfd]

/-- A cleanup leaves nothing exactly if it finds no mapping, no handle and no identifier of a joined
thread. -/
theorem PlatformInv.cleanup_balanced (h : PlatformInv p) :
    Balanced (fpgaPlatformCleanup p).uses ↔ PlatformOrderly swModel p .cleanup := by
  obtain ⟨join, close, huses, hjoin, hclose⟩ := fpgaPlatformCleanup_uses p
  have hheld : settle (fpgaPlatformCleanup p).uses 0 = settle (join ++ close) p.holds := by
    rw [huses, settle_append, h.settled, Option.bind_some]
  show settle _ 0 = some 0 ↔
    p.mmapPtr = none ∧ p.drvHandle < 0 ∧ (p.intThreadId = 0 ∨ p.threadRuns = true)
  rw [hheld]
  cases hmmap : p.mmapPtr with
  | some addr =>
    -- no cleanup unmaps anything
    have hmem : .mapping addr ∈ p.holds := by
      unfold Platform.holds
      rw [hmmap]
      simp
    have hnot : .release (.mapping addr) ∉ join ++ close := by
      rw [hjoin, hclose]
      split_ifs <;> simp
    constructor
    · intro hnone
      exact absurd (mem_of_settle hnone hmem hnot) (Multiset.notMem_zero _)
    · rintro ⟨hf, -⟩
      cases hf
  | none =>
    have hholds : p.holds = if p.threadRuns then {.thread p.intThreadId} else 0 := by
      unfold Platform.holds
      rw [hmmap, Multiset.zero_add]
    have hclosed : settle close 0 = some 0 ↔ p.drvHandle < 0 := by
      rw [hclose]
      by_cases hfd : 0 ≤ p.drvHandle
      · simp [hfd, settle]
      · simp [hfd, settle]
        omega
    rw [settle_append, hholds, hjoin]
    by_cases hruns : p.threadRuns = true
    · simp [hruns, h.id hruns, settle, hclosed]
    · by_cases hid : p.intThreadId = 0
      · simp [hruns, hid, settle, hclosed]
      · simp [hruns, hid, settle]

theorem PlatformInv.cleanup (h : PlatformInv p) (hguard : PlatformOrderly swModel p .cleanup) :
    PlatformInv (fpgaPlatformCleanup p) := by
  have hnone : settle (fpgaPlatformCleanup p).uses 0 = some 0 := h.cleanup_balanced.mpr hguard
  obtain ⟨join, close, huses, hjoin, hclose⟩ := fpgaPlatformCleanup_uses p
  have hstopped : (fpgaPlatformCleanup p).threadRuns = false := by
    have hnot : ¬ 0 ≤ p.drvHandle := by
      have := hguard.2.1
      omega
    rw [if_neg hnot] at hclose
    unfold Platform.threadRuns
    rw [huses, hclose, List.append_nil, List.foldl_append, hjoin]
    by_cases hid : p.intThreadId = 0
    · have hruns : ¬ p.threadRuns = true := fun hr => h.id hr hid
      simpa [hid, Platform.threadRuns] using hruns
    · simp [hid]
  refine ⟨?_, fun hr => ?_⟩
  · have hmmap : (fpgaPlatformCleanup p).mmapPtr = none := rfl
    rw [hnone]
    unfold Platform.holds
    rw [hmmap, hstopped]
    rfl
  · rw [hstopped] at hr
    cases hr

theorem PlatformInv.interrupt {fd : Int} {failed : Bool} (h : PlatformInv p) (hfd : 0 ≤ fd)
    (hguard : PlatformOrderly swModel p (.interrupt fd failed)) :
    PlatformInv (uioInterrupt fd failed p) := by
  have hclose : (failed || decide (0 < fd)) = true := by
    rcases hguard with hne | hfail
    · have hpos : 0 < fd := by omega
      simp [hpos]
    · simp [hfail]
  unfold uioInterrupt
  dsimp only
  rw [if_pos hclose]
  exact h.opened fd

theorem PlatformInv.step {a : PlatformAction} (h : PlatformInv p)
    (hguard : PlatformOrderly swModel p a) (hstep : PlatformStep swModel p a p') :
    PlatformInv p' := by
  cases hstep with
  | init hres hinit => exact (h.init hres hguard hinit).1
  | cleanup => exact h.cleanup hguard
  | interrupt hruns hfd failed => exact h.interrupt hfd hguard

/-- **Balanced resources**: in an orderly lifecycle every cleanup leaves nothing acquired, and
`fpga_platform_init` only returns `true` if all stages succeed. -/
theorem platform_balanced {a : PlatformAction}
    (hrun : Reach (PlatformStep swModel) (PlatformOrderly swModel) .static p)
    (hguard : PlatformOrderly swModel p a) (hstep : PlatformStep swModel p a p') :
    (a = .cleanup → Balanced p'.uses) ∧
      ∀ args res, a = .init args res → fpgaPlatformInit swModel args res p = some (true, p') →
        ∃ p1, StagesSucceed swModel args res p p1 := by
  have hinv := hrun.invariant PlatformInv (fun _ _ _ h hg hs => h.step hg hs) platformInv_static
  refine ⟨fun ha => ?_, fun args res ha hinit => ?_⟩
  · subst ha
    cases hstep with
    | cleanup => exact hinv.cleanup_balanced.mpr hguard
  · subst ha
    cases hstep with
    | init hres hinit' => exact (hinv.init hres hguard hinit).2 rfl

namespace Platform

/-- The command line names a span, everything else is the default. -/
def spanOnly : UioArgs where
  driverPath := none
  startAddress := none
  addressSpan := some 0x10000
  singleComponentMode := false

/-- A system on which everything succeeds. -/
def allSucceed : UioResults where
  sysfsSpan := 0x10000
  openFd := 3
  mmap := some 0x7F00
  malloc := 0x5500
  sync := true
  create := true
  threadId := 1

/-- The state behind the first call. -/
def started (swModel : Bool) (res : UioResults) : Platform :=
  ((fpgaPlatformInit swModel spanOnly res .static).getD (false, .static)).2

end Platform

theorem platformStep_started (swModel : Bool) {res : UioResults} (hres : res.Valid)
    (hsome : (fpgaPlatformInit swModel Platform.spanOnly res .static).isSome) :
    PlatformStep swModel .static (.init Platform.spanOnly res) (Platform.started swModel res) := by
  obtain ⟨x, hx⟩ := Option.isSome_iff_exists.mp hsome
  have heq : Platform.started swModel res = x.2 := by
    unfold Platform.started
    rw [hx]
    rfl
  rw [heq]
  exact .init hres hx

/-- The software model is started and cleaned up, and the device is mapped with all stages. -/
theorem platform_balanced_started :
    Balanced (fpgaPlatformCleanup (Platform.started true Platform.allSucceed)).uses ∧
      ∃ p1, StagesSucceed false Platform.spanOnly Platform.allSucceed .static p1 := by
  have hvalid : Platform.allSucceed.Valid := ⟨by decide, fun _ => by decide⟩
  have hmodel := platformStep_started true hvalid rfl
  have hdevice := platformStep_started false hvalid rfl
  have hguard (swModel : Bool) :
      PlatformOrderly swModel .static (.init Platform.spanOnly Platform.allSucceed) :=
    fun _ _ _ => ⟨fun _ => rfl, fun _ _ => ⟨rfl, rfl, rfl⟩⟩
  have hrun : Reach (PlatformStep true) (PlatformOrderly true) .static
      (Platform.started true Platform.allSucceed) := .single (hguard true) hmodel
  have hend : PlatformOrderly true (Platform.started true Platform.allSucceed) .cleanup :=
    ⟨rfl, by decide, .inr rfl⟩
  refine ⟨(platform_balanced hrun hend (.cleanup _)).1 rfl, ?_⟩
  exact (platform_balanced .refl (hguard false) hdevice).2 _ _ rfl rfl

/-- The device stays mapped; if it cannot be mapped it is closed twice; a second cleanup joins the
thread again; and if no thread can be created `fpga_platform_init` returns `true`. -/
theorem platform_unbalanced :
    (∃ p, Reach (PlatformStep false) always .static p ∧ .acquire (.mapping 0x7F00) ∈ p.uses ∧
      .release (.mapping 0x7F00) ∉ (fpgaPlatformCleanup p).uses) ∧
    (∃ p, Reach (PlatformStep false) always .static p ∧
      (fpgaPlatformCleanup p).uses = [.acquire (.fd 3), .release (.fd 3), .release (.fd 3)]) ∧
    (∃ p, Reach (PlatformStep true) always .static p ∧ Balanced (fpgaPlatformCleanup p).uses ∧
      (fpgaPlatformCleanup (fpgaPlatformCleanup p)).uses =
        [.acquire (.thread 1), .release (.thread 1), .release (.thread 1)]) ∧
    ∃ p res, fpgaPlatformInit true Platform.spanOnly res .static = some (true, p) ∧
      p.singleComponentMode = true ∧ res.create = false := by
  have hvalid : Platform.allSucceed.Valid := ⟨by decide, fun _ => by decide⟩
  have hunmapped : ({ Platform.allSucceed with mmap := none } : UioResults).Valid :=
    ⟨by decide, fun _ => by decide⟩
  refine ⟨⟨_, .single trivial (platformStep_started false hvalid rfl), ?_, ?_⟩,
    ⟨_, .single trivial (platformStep_started false hunmapped rfl), rfl⟩,
    ⟨_, .single trivial (platformStep_started true hvalid rfl), ?_, rfl⟩,
    ⟨_, { Platform.allSucceed with create := false }, rfl, rfl, rfl⟩⟩
  · decide
  · decide
  · exact rfl

end RemoteDebug
