import RemoteDebug.Lib.CString

/-!
# Command lines

`getopt_long` of the GNU C library for options without or with a required argument. It goes over the words
of a command line and moves the words that are no option behind the others, as it does when neither
`POSIXLY_CORRECT` is set nor the option string asks for another order.
-/

namespace Getopt

/-- A word of the command line. -/
abbrev Word := List UInt8

/-- An entry of the table of long options. With a flag the value is stored there and 0 is returned. -/
structure LongOption where
  name : List UInt8
  hasArg : Bool
  flag : Bool
  val : UInt8
  deriving DecidableEq

/-- The options that a program takes. -/
structure Options where
  optstring : List UInt8
  longopts : List LongOption

/-- What one call returns: the option character with `optarg`, the value that it has stored in a flag, or
`'?'`. -/
inductive Returned where
  | option (val : UInt8) (optarg : Option Word)
  | flag (val : UInt8)
  | error
  deriving DecidableEq

/-- What a word that starts an option leads to. An option that still lacks its argument is returned with
the next word. -/
inductive Parsed where
  | done (returned : List Returned)
  | needs (returned : List Returned) (ret : Word → Returned)

/-- A value that is returned before the others. -/
def Parsed.push (x : Returned) : Parsed → Parsed
  | done returned => done (x :: returned)
  | needs returned ret => needs (x :: returned) ret

/-! ## Long options -/

/-- The option that a name stands for: the one with this name, or else the only one that the name is an
abbreviation of. -/
def findLong (longopts : List LongOption) (name : List UInt8) : Option LongOption :=
  match longopts.find? fun o => o.name = name with
  | some o => some o
  | none =>
    match longopts.filter fun o => name.isPrefixOf o.name with
    | [] => none
    | o :: others =>
      if others.all fun o' => o'.hasArg = o.hasArg ∧ o'.flag = o.flag ∧ o'.val = o.val then some o
      else none

def LongOption.returned (o : LongOption) (optarg : Option Word) : Returned :=
  if o.flag then .flag o.val else .option o.val optarg

/-- A word behind its `--`. -/
def parseLong (longopts : List LongOption) (body : Word) : Parsed :=
  let name := body.takeWhile (· ≠ 0x3D)
  let value := body.drop name.length
  match findLong longopts name with
  | none => .done [.error]
  | some o =>
    match value with
    | _ :: optarg => if o.hasArg then .done [o.returned (some optarg)] else .done [.error]
    | [] => if o.hasArg then .needs [] fun optarg => o.returned (some optarg)
      else .done [o.returned none]

/-! ## Short options -/

/-- Whether a character is an option, and whether it requires an argument. -/
def findShort (optstring : List UInt8) (c : UInt8) : Option Bool :=
  if c = 0x3A ∨ c = 0x3B then none
  else
    match optstring.dropWhile (· ≠ c) with
    | [] => none
    | _ :: behind => some (behind.head? = some 0x3A)

/-- A word behind its `-`: one character after the other, and what follows an option with an argument is
the argument. -/
def parseShort (optstring : List UInt8) : Word → Parsed
  | [] => .done []
  | c :: cs =>
    match findShort optstring c with
    | none => (parseShort optstring cs).push .error
    | some false => (parseShort optstring cs).push (.option c none)
    | some true =>
      match cs with
      | [] => .needs [] fun optarg => .option c (some optarg)
      | _ :: _ => .done [.option c (some cs)]

/-! ## The scan -/

/-- A word that starts an option. A single `-` does not. -/
def isOption : Word → Bool
  | c :: _ :: _ => c = 0x2D
  | _ => false

/-- A word with its dashes. -/
def Options.parse (opts : Options) (w : Word) : Parsed :=
  match w.tail with
  | 0x2D :: body => parseLong opts.longopts body
  | body => parseShort opts.optstring body

/-- What the calls return until the end, and the words: those of the options with their arguments, and the
others. -/
structure Scanned where
  returned : List Returned
  options : List Word
  others : List Word
  deriving DecidableEq

/-- The words behind the calls. -/
def Scanned.words (s : Scanned) : List Word := s.options ++ s.others

/-- The calls of `getopt_long` over the words. `ret` is what an option that lacks its argument is returned
with; behind `--` there are no more options. -/
def Options.scan (opts : Options) : (ret : Option (Word → Returned)) → List Word → Scanned
  | none, [] => ⟨[], [], []⟩
  | some _, [] => ⟨[.error], [], []⟩
  | some ret, w :: ws =>
    let s := opts.scan none ws
    ⟨ret w :: s.returned, w :: s.options, s.others⟩
  | none, w :: ws =>
    if w = [0x2D, 0x2D] then ⟨[], [w], ws⟩
    else if isOption w then
      match opts.parse w with
      | .done returned =>
        let s := opts.scan none ws
        ⟨returned ++ s.returned, w :: s.options, s.others⟩
      | .needs returned ret =>
        let s := opts.scan (some ret) ws
        ⟨returned ++ s.returned, w :: s.options, s.others⟩
    else
      let s := opts.scan none ws
      ⟨s.returned, s.options, w :: s.others⟩

variable {opts : Options} {w : Word} {ws : List Word} {returned : List Returned}
  {ret : Word → Returned}

/-! ## One word -/

theorem scan_other (h : isOption w = false) (ws : List Word) :
    opts.scan none (w :: ws) =
      ⟨(opts.scan none ws).returned, (opts.scan none ws).options, w :: (opts.scan none ws).others⟩ := by
  have hne : w ≠ [0x2D, 0x2D] := by
    rintro rfl
    cases h
  simp [Options.scan, h, hne]

theorem scan_done (h : isOption w = true) (hne : w ≠ [0x2D, 0x2D]) (hparse : opts.parse w = .done returned)
    (ws : List Word) :
    opts.scan none (w :: ws) =
      ⟨returned ++ (opts.scan none ws).returned, w :: (opts.scan none ws).options,
        (opts.scan none ws).others⟩ := by
  simp [Options.scan, h, hne, hparse]

theorem scan_needs (h : isOption w = true) (hne : w ≠ [0x2D, 0x2D])
    (hparse : opts.parse w = .needs returned ret) (ws : List Word) :
    opts.scan none (w :: ws) =
      ⟨returned ++ (opts.scan (some ret) ws).returned, w :: (opts.scan (some ret) ws).options,
        (opts.scan (some ret) ws).others⟩ := by
  simp [Options.scan, h, hne, hparse]

@[simp] theorem scan_pending (ret : Word → Returned) (w : Word) (ws : List Word) :
    opts.scan (some ret) (w :: ws) =
      ⟨ret w :: (opts.scan none ws).returned, w :: (opts.scan none ws).options,
        (opts.scan none ws).others⟩ := rfl

/-- Behind the options there may be other words. -/
theorem scan_others (h : ∀ w ∈ ws, isOption w = false) : opts.scan none ws = ⟨[], [], ws⟩ := by
  induction ws with
  | nil => rfl
  | cons w ws ih =>
    obtain ⟨hw, hws⟩ := List.forall_mem_cons.mp h
    rw [scan_other hw, ih hws]

/-! ## One option -/

theorem isOption_eq_false (h : w.head? ≠ some 0x2D) : isOption w = false := by
  match w, h with
  | [], _ => rfl
  | [_], _ => rfl
  | c :: _ :: _, h => simpa [isOption] using h

theorem takeWhile_name {name : List UInt8} (hname : 0x3D ∉ name) (value : Word) :
    (name ++ 0x3D :: value).takeWhile (· ≠ 0x3D) = name := by
  rw [List.takeWhile_append_of_pos fun b hb => by
    have hne : b ≠ 0x3D := fun h => hname (h ▸ hb)
    simpa using hne]
  simp

variable (opts)

/-- `--name=value` for a name of the table. -/
theorem scan_long_value (name : List UInt8) {o : LongOption} (hname : 0x3D ∉ name)
    (hfind : findLong opts.longopts name = some o) (harg : o.hasArg = true) (value : Word)
    (ws : List Word) :
    opts.scan none ((0x2D :: 0x2D :: (name ++ 0x3D :: value)) :: ws) =
      ⟨o.returned (some value) :: (opts.scan none ws).returned,
        (0x2D :: 0x2D :: (name ++ 0x3D :: value)) :: (opts.scan none ws).options,
        (opts.scan none ws).others⟩ := by
  have hparse : opts.parse (0x2D :: 0x2D :: (name ++ 0x3D :: value)) = .done [o.returned (some value)] := by
    simp only [Options.parse, List.tail_cons, parseLong, takeWhile_name hname, hfind, List.drop_left, harg,
      if_true]
  exact scan_done rfl (by simp) hparse ws

/-- `--name` for a name without an argument. -/
theorem scan_long_flag (name : List UInt8) {o : LongOption} (hname : 0x3D ∉ name) (hne : name ≠ [])
    (hfind : findLong opts.longopts name = some o) (harg : o.hasArg = false) (ws : List Word) :
    opts.scan none ((0x2D :: 0x2D :: name) :: ws) =
      ⟨o.returned none :: (opts.scan none ws).returned,
        (0x2D :: 0x2D :: name) :: (opts.scan none ws).options, (opts.scan none ws).others⟩ := by
  have hall : name.takeWhile (· ≠ 0x3D) = name := List.takeWhile_eq_self_iff.mpr fun b hb => by
    have hb' : b ≠ 0x3D := fun h => hname (h ▸ hb)
    simpa using hb'
  have hparse : opts.parse (0x2D :: 0x2D :: name) = .done [o.returned none] := by
    simp only [Options.parse, List.tail_cons, parseLong, hall, hfind, List.drop_length, harg,
      Bool.false_eq_true, if_false]
  exact scan_done rfl (by simpa using hne) hparse ws

/-- `--name=value` for another name. -/
theorem scan_long_unknown (name : List UInt8) (hname : 0x3D ∉ name)
    (hfind : findLong opts.longopts name = none) (value : Word) (ws : List Word) :
    opts.scan none ((0x2D :: 0x2D :: (name ++ 0x3D :: value)) :: ws) =
      ⟨.error :: (opts.scan none ws).returned,
        (0x2D :: 0x2D :: (name ++ 0x3D :: value)) :: (opts.scan none ws).options,
        (opts.scan none ws).others⟩ := by
  have hparse : opts.parse (0x2D :: 0x2D :: (name ++ 0x3D :: value)) = .done [.error] := by
    simp only [Options.parse, List.tail_cons, parseLong, takeWhile_name hname, hfind]
  exact scan_done rfl (by simp) hparse ws

/-- `-c` without an argument. -/
theorem scan_short_flag (c : UInt8) (hc : c ≠ 0x2D) (hfind : findShort opts.optstring c = some false)
    (ws : List Word) :
    opts.scan none ([0x2D, c] :: ws) =
      ⟨.option c none :: (opts.scan none ws).returned, [0x2D, c] :: (opts.scan none ws).options,
        (opts.scan none ws).others⟩ := by
  have hparse : opts.parse [0x2D, c] = .done [.option c none] := by
    simp [Options.parse, hc, parseShort, hfind, Parsed.push]
  exact scan_done rfl (by simpa using hc) hparse ws

/-- `-c` for an option with an argument: the next word, whatever it is. -/
theorem scan_short_arg (c : UInt8) (hc : c ≠ 0x2D) (hfind : findShort opts.optstring c = some true)
    (ws : List Word) :
    opts.scan none ([0x2D, c] :: ws) =
      ⟨(opts.scan (some fun optarg => .option c (some optarg)) ws).returned,
        [0x2D, c] :: (opts.scan (some fun optarg => .option c (some optarg)) ws).options,
        (opts.scan (some fun optarg => .option c (some optarg)) ws).others⟩ := by
  have hparse : opts.parse [0x2D, c] = .needs [] fun optarg => .option c (some optarg) := by
    simp [Options.parse, hc, parseShort, hfind]
  exact scan_needs rfl (by simpa using hc) hparse ws

/-- `-c` for a character that is no option. -/
theorem scan_short_unknown (c : UInt8) (hc : c ≠ 0x2D) (hfind : findShort opts.optstring c = none)
    (ws : List Word) :
    opts.scan none ([0x2D, c] :: ws) =
      ⟨.error :: (opts.scan none ws).returned, [0x2D, c] :: (opts.scan none ws).options,
        (opts.scan none ws).others⟩ := by
  have hparse : opts.parse [0x2D, c] = .done [.error] := by
    simp [Options.parse, hc, parseShort, hfind, Parsed.push]
  exact scan_done rfl (by simpa using hc) hparse ws

end Getopt
