import Seshat.Lib.Counting
import Seshat.Lib.Folds
import Seshat.System.PerfFormats
import Seshat.System.Ticks
import Mathlib.Tactic.Common

/-! What the sampler reads under `/proc`: the files of the host and of a process as the kernel
prints them, whatever the process is called, and the samples made of them. -/

namespace Seshat.System
open Config (isWhitespace trim)
open Report (Text lines)
open Lib.Decimals Lib.Folds Lib.Saturating Lib.Words

/-! Reading. -/

def firstU64 (text : Text) : UInt64 := ((splitWhitespace text).head?.bind parseU64).getD 0

/-- `str::strip_prefix` -/
def afterKey (key : String) (line : Text) : Option Text :=
  if key.toList <+: line then some (line.drop key.toList.length) else none

/-- What stands behind the last such character. -/
def afterLast (c : Char) (text : Text) : Option Text :=
  if c ∈ text then some (text.reverse.takeWhile (· ≠ c)).reverse else none

/-- `utime`, `stime` and `num_threads`. -/
def parseStat (line : Text) : Option (UInt64 × UInt64 × UInt64) := do
  let rest ← afterLast ')' line
  let f := splitWhitespace (trim rest)
  let utime ← f[11]?.bind parseU64
  let stime ← f[12]?.bind parseU64
  let threads ← f[17]?.bind parseU64
  some (utime, stime, threads)

/-- The number of the first line with the key. -/
def findNumber (key : String) (file : Text) : Option UInt64 :=
  (lines file).findSome? fun line => (afterKey key line).map firstU64

/-- The numbers of two keys, each put to what the lines before have left. -/
def scanKeys (first second : String) (put : UInt64 → UInt64 → UInt64) (pair : UInt64 × UInt64)
    (file : Text) : UInt64 × UInt64 :=
  (lines file).foldl (fun pair line =>
    match afterKey first line with
    | some value => (put pair.1 (firstU64 value), pair.2)
    | none =>
        match afterKey second line with
        | some value => (pair.1, put pair.2 (firstU64 value))
        | none => pair) pair

/-- The last line with a key gives its number. -/
def assigned (_ n : UInt64) : UInt64 := n

/-- The files of a process; what cannot be read is `none`. -/
structure ProcDir where
  stat : Option Text
  status : Option Text
  io : Option Text
  smapsRollup : Option Text
  /-- The names in `task`, and the files of a thread by its name and by its number. -/
  tasks : Option (List Text)
  taskStatus : Text → Option Text
  taskStat : UInt32 → Option Text

namespace ProcDir

variable (dir : ProcDir)

def parseRss : UInt64 := (dir.status.bind (findNumber "VmRSS:")).getD 0

def parsePss : UInt64 := (dir.smapsRollup.bind (findNumber "Pss:")).getD 0

def parseIo : UInt64 × UInt64 :=
  (dir.io.map (scanKeys "read_bytes:" "write_bytes:" assigned (0, 0))).getD (0, 0)

/-- Over all threads whose status can be read, or else of the leader alone. -/
def sumThreadCtxtSwitches : UInt64 × UInt64 :=
  let readable := (dir.tasks.getD []).filterMap dir.taskStatus
  if readable.isEmpty then
    (dir.status.map (scanKeys "voluntary_ctxt_switches:" "nonvoluntary_ctxt_switches:" assigned
      (0, 0))).getD (0, 0)
  else
    readable.foldl (scanKeys "voluntary_ctxt_switches:" "nonvoluntary_ctxt_switches:" (· + ·)) (0, 0)

/-- `str::parse::<u32>` -/
def parseU32 (text : Text) : Option UInt32 :=
  (parseU64 text).bind fun n => if n.toNat < 2 ^ 32 then some n.toUInt32 else none

def readThreadTicks : List (UInt32 × UInt64) :=
  (dir.tasks.getD []).filterMap fun name => do
    let tid ← parseU32 name
    let stat ← dir.taskStat tid
    let (utime, stime, _) ← parseStat stat
    some (tid, utime + stime)

/-- `sample_pid`, but for the stamps of its tick. -/
def sample : Option ProcReading := do
  let stat ← dir.stat
  let (utimeTicks, stimeTicks, threads) ← parseStat stat
  let (voluntaryCtxt, nonvoluntaryCtxt) := dir.sumThreadCtxtSwitches
  let (readBytes, writeBytes) := dir.parseIo
  some
    { rssKib := dir.parseRss
      pssKib := dir.parsePss
      threads, utimeTicks, stimeTicks, voluntaryCtxt, nonvoluntaryCtxt, readBytes, writeBytes
      threadTicks := dir.readThreadTicks }

end ProcDir

/-- The busy and the total ticks of the host. -/
def parseHostCpuLine (body : Text) : UInt64 × UInt64 :=
  match (lines body).findSome? (afterKey "cpu ") with
  | none => (0, 0)
  | some rest =>
      let fields := (splitWhitespace rest).filterMap parseU64
      if fields.length < 5 then (0, 0)
      else
        let total := wrapSum id fields
        (satSub total (fields.getD 3 0 + fields.getD 4 0), total)

/-! What the kernel prints. -/

/-- A field of a `stat` line behind the name. -/
abbrev StatField := { word : Text // word ≠ [] ∧ ∀ c ∈ word, isWhitespace c = false ∧ c ≠ ')' }

/-- A `stat` line: the name is any text, the fields behind it are words. -/
structure StatLine where
  id : Nat
  comm : Text
  front : List StatField
  utime : UInt64
  stime : UInt64
  middle : List StatField
  threads : UInt64
  back : List StatField
  eleven : front.length = 11
  four : middle.length = 4

namespace StatLine

variable (stat : StatLine)

def words : List Text :=
  stat.front.map Subtype.val ++
    [Nat.toDigits 10 stat.utime.toNat, Nat.toDigits 10 stat.stime.toNat] ++
    stat.middle.map Subtype.val ++ Nat.toDigits 10 stat.threads.toNat :: stat.back.map Subtype.val

def text : Text :=
  Nat.toDigits 10 stat.id ++ " (".toList ++ stat.comm ++
    ')' :: (stat.words.flatMap (' ' :: ·) ++ ['\n'])

end StatLine

/-- Lines of which exactly one starts with the key, with this number behind it. -/
def Shows (rows : List Text) (key : String) (n : UInt64) : Prop :=
  ∃ front back gap unit,
    rows = front ++ (key.toList ++ (gap ++ (Nat.toDigits 10 n.toNat ++ unit))) :: back ∧
      (∀ c ∈ gap, isWhitespace c = true) ∧ (∀ c ∈ unit.head?, isWhitespace c = true) ∧
      ∀ row ∈ front ++ back, ¬key.toList <+: row

/-- A file of whole lines. -/
structure RowFile where
  rows : List Text
  whole : ∀ row ∈ rows, Whole row

def RowFile.text (file : RowFile) : Text := unlines file.rows

/-- A `status` file and the counters of its thread. -/
structure StatusFile extends RowFile where
  voluntary : UInt64
  nonvoluntary : UInt64
  showsVoluntary : Shows rows "voluntary_ctxt_switches:" voluntary
  showsNonvoluntary : Shows rows "nonvoluntary_ctxt_switches:" nonvoluntary

/-- The `status` file of a process also shows its memory, as long as it has any. -/
structure LeaderFile extends StatusFile where
  rss : Option UInt64
  showsRss : rss.elim (∀ row ∈ rows, ¬"VmRSS:".toList <+: row) (Shows rows "VmRSS:")

structure IoFile extends RowFile where
  readBytes : UInt64
  writeBytes : UInt64
  showsRead : Shows rows "read_bytes:" readBytes
  showsWrite : Shows rows "write_bytes:" writeBytes

structure SmapsFile extends RowFile where
  pss : UInt64
  showsPss : Shows rows "Pss:" pss

/-- The files of a thread, which are gone once it has exited. -/
structure ThreadFiles where
  tid : UInt32
  stat : Option StatLine
  status : Option StatusFile

/-- A process, all of whose files but the first may be hidden from the reader or gone. -/
structure ProcFiles where
  stat : StatLine
  status : Option LeaderFile
  io : Option IoFile
  smaps : Option SmapsFile
  threads : List ThreadFiles
  distinct : (threads.map ThreadFiles.tid).Nodup

namespace ProcFiles

variable (files : ProcFiles)

def taskName (tid : UInt32) : Text := Nat.toDigits 10 tid.toNat

def dir : ProcDir where
  stat := some files.stat.text
  status := files.status.map fun status => status.text
  io := files.io.map fun io => io.text
  smapsRollup := files.smaps.map fun smaps => smaps.text
  tasks := some (files.threads.map fun thread => taskName thread.tid)
  taskStatus name :=
    (files.threads.find? fun thread => taskName thread.tid = name).bind fun thread =>
      thread.status.map fun status => status.text
  taskStat tid :=
    (files.threads.find? fun thread => thread.tid = tid).bind fun thread =>
      thread.stat.map StatLine.text

/-- The threads whose counters can still be read. -/
def counted : List StatusFile := files.threads.filterMap ThreadFiles.status

/-- What the files say. -/
def reading : ProcReading where
  rssKib := (files.status.bind LeaderFile.rss).getD 0
  pssKib := files.smaps.elim 0 SmapsFile.pss
  threads := files.stat.threads
  utimeTicks := files.stat.utime
  stimeTicks := files.stat.stime
  voluntaryCtxt :=
    if files.counted = [] then files.status.elim 0 fun status => status.voluntary
    else wrapSum StatusFile.voluntary files.counted
  nonvoluntaryCtxt :=
    if files.counted = [] then files.status.elim 0 fun status => status.nonvoluntary
    else wrapSum StatusFile.nonvoluntary files.counted
  readBytes := files.io.elim 0 IoFile.readBytes
  writeBytes := files.io.elim 0 IoFile.writeBytes
  threadTicks := files.threads.filterMap fun thread =>
    thread.stat.map fun stat => (thread.tid, stat.utime + stat.stime)

end ProcFiles

/-- The `stat` file of the host: the ticks of its processors, which fit a word together. -/
structure HostStat where
  user : UInt64
  nice : UInt64
  system : UInt64
  idle : UInt64
  iowait : UInt64
  more : List UInt64
  rows : List Text
  whole : ∀ row ∈ rows, Whole row
  fits : exactSum id (user :: nice :: system :: idle :: iowait :: more) < 2 ^ 64

namespace HostStat

variable (host : HostStat)

def fields : List UInt64 :=
  host.user :: host.nice :: host.system :: host.idle :: host.iowait :: host.more

def cpuRow : Text :=
  "cpu ".toList ++ host.fields.flatMap fun n => ' ' :: Nat.toDigits 10 n.toNat

def text : Text := unlines (host.cpuRow :: host.rows)

def total : Nat := exactSum id host.fields

/-- All but the ticks spent idle or waiting. -/
def busy : Nat := exactSum id (host.user :: host.nice :: host.system :: host.more)

end HostStat

/-- What a turn of the sampler finds; a process that is gone has no files. -/
structure Snapshot where
  now : Nat
  host : Option HostStat
  proc : Int32 → Option ProcFiles

namespace Snapshot

variable (snapshot : Snapshot)

def readHostStat : UInt64 × UInt64 :=
  (snapshot.host.map fun host => parseHostCpuLine host.text).getD (0, 0)

/-- The turn as the sampler reads it. -/
def read : Round where
  now := snapshot.now
  hostBusy := snapshot.readHostStat.1
  hostTotal := snapshot.readHostStat.2
  proc pid := (snapshot.proc pid).bind fun files => files.dir.sample

/-- The turn as the files tell it. -/
def shown : Round where
  now := snapshot.now
  hostBusy := snapshot.host.elim 0 fun host => UInt64.ofNat host.busy
  hostTotal := snapshot.host.elim 0 fun host => UInt64.ofNat host.total
  proc pid := (snapshot.proc pid).map ProcFiles.reading

end Snapshot

/-! Numbers behind keys. -/

theorem number_plain (n : UInt64) : Nat.toDigits 10 n.toNat ≠ [] ∧
    ∀ c ∈ Nat.toDigits 10 n.toNat, isWhitespace c = false := by
  have digits := digits_toDigits n.toNat
  exact ⟨digits.nonempty, fun c member => digit_plain (digits.digits c member)⟩

theorem parseU64_number (n : UInt64) : parseU64 (Nat.toDigits 10 n.toNat) = some n := by
  rw [parseU64_digits (digits_toDigits n.toNat) n.toNat_lt, UInt64.ofNat_toNat]

theorem firstU64_number {gap unit : Text} (blank : ∀ c ∈ gap, isWhitespace c = true) (n : UInt64)
    (apart : ∀ c ∈ unit.head?, isWhitespace c = true) :
    firstU64 (gap ++ (Nat.toDigits 10 n.toNat ++ unit)) = n := by
  obtain ⟨nonempty, plain⟩ := number_plain n
  have skipped (rest : Text) : splitWhitespace (gap ++ rest) = splitWhitespace rest := by
    induction gap with
    | nil => rfl
    | cons c gap ih =>
      refine (words_blank (blank c List.mem_cons_self) (gap ++ rest)).trans ?_
      exact ih fun other member => blank other (List.mem_cons_of_mem _ member)
  have front : (splitWhitespace (Nat.toDigits 10 n.toNat ++ unit)).head? =
      some (Nat.toDigits 10 n.toNat) := by
    cases unit with
    | nil =>
      rw [List.append_nil, splitWhitespace, words_last nonempty plain]
      rfl
    | cons sep unit =>
      rw [splitWhitespace, words_cons nonempty plain (apart sep rfl)]
      rfl
  rw [firstU64, skipped, front, Option.bind_some, parseU64_number, Option.getD_some]

theorem afterKey_own (key : String) (value : Text) :
    afterKey key (key.toList ++ value) = some value := by
  rw [afterKey, if_pos (List.prefix_append _ _), List.drop_left]

theorem afterKey_none {key : String} {line : Text} (absent : ¬key.toList <+: line) :
    afterKey key line = none := if_neg absent

theorem findNumber_shows {file : RowFile} {key : String} {n : UInt64}
    (shows_ : Shows file.rows key n) : findNumber key file.text = some n := by
  obtain ⟨front, back, gap, unit, rows, blank, apart, others⟩ := shows_
  have ahead : front.findSome? (fun line => (afterKey key line).map firstU64) = none := by
    rw [List.findSome?_eq_none_iff]
    intro row member
    rw [afterKey_none (others row (List.mem_append_left _ member))]
    rfl
  rw [findNumber, RowFile.text, lines_unlines file.whole, rows, List.findSome?_append, ahead,
    Option.none_or, List.findSome?_cons, afterKey_own, Option.map_some,
    firstU64_number blank n apart]

theorem findNumber_absent {file : RowFile} {key : String}
    (absent : ∀ row ∈ file.rows, ¬key.toList <+: row) : findNumber key file.text = none := by
  rw [findNumber, RowFile.text, lines_unlines file.whole, List.findSome?_eq_none_iff]
  intro row member
  rw [afterKey_none (absent row member)]
  rfl

/-- What a line makes of the number of a key. -/
def noteKey (key : String) (put : UInt64 → UInt64 → UInt64) (total : UInt64) (line : Text) :
    UInt64 :=
  ((afterKey key line).map firstU64).elim total (put total)

/-- The lines without a key leave its number alone. -/
theorem foldl_shows {rows : List Text} {key : String} {n : UInt64} (shows_ : Shows rows key n)
    (put : UInt64 → UInt64 → UInt64) (start : UInt64) :
    rows.foldl (noteKey key put) start = put start n := by
  obtain ⟨front, back, gap, unit, rows, blank, apart, others⟩ := shows_
  have quiet {part : List Text} (inside : ∀ row ∈ part, row ∈ front ++ back) (total : UInt64) :
      part.foldl (noteKey key put) total = total := by
    induction part with
    | nil => rfl
    | cons row rest ih =>
      have absent := afterKey_none (others row (inside row List.mem_cons_self))
      rw [List.foldl_cons, noteKey, absent]
      exact ih fun other member => inside other (List.mem_cons_of_mem _ member)
  rw [rows, List.foldl_append, List.foldl_cons, quiet fun row => List.mem_append_left back,
    quiet fun row => List.mem_append_right front, noteKey, afterKey_own, Option.map_some,
    firstU64_number blank n apart, Option.elim_some]

/-- Two keys neither of which starts the other. -/
def KeysApart (first second : String) : Prop :=
  ¬first.toList <+: second.toList ∧ ¬second.toList <+: first.toList

theorem scanKeys_shows {file : RowFile} {first second : String} (keys : KeysApart first second)
    {n m : UInt64} (showsFirst : Shows file.rows first n) (showsSecond : Shows file.rows second m)
    (put : UInt64 → UInt64 → UInt64) (pair : UInt64 × UInt64) :
    scanKeys first second put pair file.text = (put pair.1 n, put pair.2 m) := by
  have one (line : Text) (found : (afterKey first line).isSome) : afterKey second line = none := by
    refine afterKey_none fun other => ?_
    have own : first.toList <+: line := by
      by_contra absent
      rw [afterKey_none absent] at found
      cases found
    rcases List.prefix_or_prefix_of_prefix own other with inside | inside
    · exact keys.1 inside
    · exact keys.2 inside
  have steps : scanKeys first second put pair file.text =
      file.rows.foldl (fun pair line =>
        (noteKey first put pair.1 line, noteKey second put pair.2 line)) pair := by
    rw [scanKeys, RowFile.text, lines_unlines file.whole]
    congr 1
    funext pair line
    rw [noteKey, noteKey]
    cases found : afterKey first line with
    | some value => rw [one line (by rw [found]; rfl)]; rfl
    | none => cases afterKey second line <;> rfl
  rw [steps]
  refine (List.foldl_hom₂ file.rows Prod.mk (noteKey first put) (noteKey second put) _ _ _
    fun _ _ _ => rfl).trans ?_
  exact Prod.ext (foldl_shows showsFirst put pair.1) (foldl_shows showsSecond put pair.2)

/-! The `stat` line. -/

theorem afterLast_behind (front : Text) {c : Char} {back : Text} (absent : c ∉ back) :
    afterLast c (front ++ c :: back) = some back := by
  have present : c ∈ front ++ c :: back := List.mem_append_right _ List.mem_cons_self
  have kept : ∀ d ∈ back.reverse, decide (d ≠ c) = true := fun d member =>
    decide_eq_true fun same => absent (same ▸ List.mem_reverse.mp member)
  rw [afterLast, if_pos present, List.reverse_append, List.reverse_cons, List.append_assoc,
    List.takeWhile_append_of_pos kept, List.singleton_append,
    List.takeWhile_cons_of_neg (by simp), List.append_nil, List.reverse_reverse]

namespace StatLine

variable (stat : StatLine)

/-- No word behind the name has a blank or a bracket. -/
theorem words_plain : ∀ word ∈ stat.words, word ≠ [] ∧
    ∀ c ∈ word, isWhitespace c = false ∧ c ≠ ')' := by
  have number (n : UInt64) : Nat.toDigits 10 n.toNat ≠ [] ∧
      ∀ c ∈ Nat.toDigits 10 n.toNat, isWhitespace c = false ∧ c ≠ ')' := by
    obtain ⟨nonempty, plain⟩ := number_plain n
    refine ⟨nonempty, fun c member => ⟨plain c member, ?_⟩⟩
    rintro rfl
    exact absurd ((digits_toDigits n.toNat).digits _ member) (by decide)
  have field (fields : List StatField) : ∀ word ∈ fields.map Subtype.val, word ≠ [] ∧
      ∀ c ∈ word, isWhitespace c = false ∧ c ≠ ')' := by
    rintro _ member
    obtain ⟨word, -, rfl⟩ := List.mem_map.mp member
    exact word.2
  intro word member
  simp only [words, List.mem_append, List.mem_cons, List.not_mem_nil, or_false] at member
  rcases member with ((inside | rfl | rfl) | inside) | rfl | inside
  · exact field _ word inside
  · exact number _
  · exact number _
  · exact field _ word inside
  · exact number _
  · exact field _ word inside

theorem parseStat_text : parseStat stat.text = some (stat.utime, stat.stime, stat.threads) := by
  have unbracketed : ')' ∉ stat.words.flatMap (' ' :: ·) ++ ['\n'] := by
    intro member
    rcases List.mem_append.mp member with inside | last
    · obtain ⟨word, inside, within⟩ := List.mem_flatMap.mp inside
      rcases List.mem_cons.mp within with blank | within
      · exact absurd blank (by decide)
      · exact ((stat.words_plain word inside).2 _ within).2 rfl
    · exact absurd (List.mem_singleton.mp last) (by decide)
  have split : splitWhitespace (trim (stat.words.flatMap (' ' :: ·) ++ ['\n'])) = stat.words := by
    refine ((words_strip _).trans (words_append (by decide) _ _)).trans ?_
    refine (List.append_nil _).trans (words_separated (by decide) fun word member => ?_)
    obtain ⟨nonempty, plain⟩ := stat.words_plain word member
    exact ⟨nonempty, fun c inside => (plain c inside).1⟩
  have eleven := stat.eleven
  have four := stat.four
  rw [parseStat, text, afterLast_behind _ unbracketed, Option.bind_eq_bind, Option.bind_some, split]
  simp [words, List.getElem?_append, eleven, four, parseU64_number]

end StatLine

/-! The files of a process. -/

namespace ProcFiles

variable (files : ProcFiles)

theorem parseU32_taskName (tid : UInt32) : ProcDir.parseU32 (taskName tid) = some tid := by
  have small : tid.toNat < 2 ^ 64 := lt_trans tid.toNat_lt (by decide)
  have same : (UInt64.ofNat tid.toNat).toNat = tid.toNat := UInt64.toNat_ofNat_of_lt' small
  rw [ProcDir.parseU32, taskName, parseU64_digits (digits_toDigits tid.toNat) small,
    Option.bind_some, same, if_pos tid.toNat_lt]
  exact congrArg some (UInt32.toNat_inj.mp (by
    rw [UInt64.toNat_toUInt32, same, Nat.mod_eq_of_lt tid.toNat_lt]))

theorem taskName_inj {first second : UInt32} (same : taskName first = taskName second) :
    first = second :=
  Option.some.inj ((parseU32_taskName first).symm.trans (same ▸ parseU32_taskName second))

theorem find_tid {thread : ThreadFiles} (member : thread ∈ files.threads) :
    files.threads.find? (fun other => other.tid = thread.tid) = some thread := by
  rw [← List.head?_filter, Lib.Counting.filter_key_eq files.distinct member]
  rfl

theorem taskStat_tid {thread : ThreadFiles} (member : thread ∈ files.threads) :
    files.dir.taskStat thread.tid = thread.stat.map StatLine.text := by
  simp only [dir, files.find_tid member, Option.bind_some]

theorem taskStatus_name {thread : ThreadFiles} (member : thread ∈ files.threads) :
    files.dir.taskStatus (taskName thread.tid) = thread.status.map fun status => status.text := by
  have names (other : ThreadFiles) :
      decide (taskName other.tid = taskName thread.tid) = decide (other.tid = thread.tid) :=
    decide_eq_decide.mpr ⟨taskName_inj, congrArg taskName⟩
  simp only [dir, names, files.find_tid member, Option.bind_some]

theorem readThreadTicks_reading : files.dir.readThreadTicks = files.reading.threadTicks := by
  rw [ProcDir.readThreadTicks, dir, Option.getD_some, List.filterMap_map]
  refine List.filterMap_congr fun thread member => ?_
  rw [Function.comp_apply, parseU32_taskName, Option.bind_eq_bind, Option.bind_some]
  have stat := files.taskStat_tid member
  rw [dir] at stat
  rw [stat]
  cases thread.stat with
  | none => rfl
  | some stat =>
    rw [Option.map_some, Option.bind_eq_bind, Option.bind_some, stat.parseStat_text]
    rfl

theorem ctxtKeys : KeysApart "voluntary_ctxt_switches:" "nonvoluntary_ctxt_switches:" := by
  unfold KeysApart
  decide +kernel

theorem ioKeys : KeysApart "read_bytes:" "write_bytes:" := by
  unfold KeysApart
  decide +kernel

theorem fold_ctxt (list : List StatusFile) (start : UInt64 × UInt64) :
    (list.map fun status => status.text).foldl
      (scanKeys "voluntary_ctxt_switches:" "nonvoluntary_ctxt_switches:" (· + ·)) start =
      (list.foldl (fun total status => total + status.voluntary) start.1,
        list.foldl (fun total status => total + status.nonvoluntary) start.2) := by
  induction list generalizing start with
  | nil => rfl
  | cons status rest ih =>
    rw [List.map_cons, List.foldl_cons, ih, scanKeys_shows ctxtKeys status.showsVoluntary
      status.showsNonvoluntary]
    rfl

theorem sumThreadCtxtSwitches_reading : files.dir.sumThreadCtxtSwitches =
    (files.reading.voluntaryCtxt, files.reading.nonvoluntaryCtxt) := by
  have readable : (files.dir.tasks.getD []).filterMap files.dir.taskStatus =
      files.counted.map fun status => status.text := by
    rw [counted, List.map_filterMap]
    refine (List.filterMap_map ..).trans (List.filterMap_congr fun thread member => ?_)
    exact files.taskStatus_name member
  rw [ProcDir.sumThreadCtxtSwitches, readable, reading]
  rcases eq_or_ne files.counted [] with none_ | some_
  · simp only [none_, List.map_nil, List.isEmpty_nil, if_true, dir]
    cases files.status with
    | none => rfl
    | some status =>
      exact scanKeys_shows ctxtKeys status.showsVoluntary status.showsNonvoluntary _ _
  · have filled : (files.counted.map fun status => status.text).isEmpty = false := by
      rw [List.isEmpty_eq_false_iff]
      exact fun empty => some_ (List.map_eq_nil_iff.mp empty)
    simp only [filled, if_neg some_, Bool.false_eq_true, if_false]
    exact fold_ctxt files.counted (0, 0)

theorem parseIo_reading :
    files.dir.parseIo = (files.reading.readBytes, files.reading.writeBytes) := by
  rw [ProcDir.parseIo, dir, reading]
  cases files.io with
  | none => rfl
  | some io => exact scanKeys_shows ioKeys io.showsRead io.showsWrite _ _

theorem parsePss_reading : files.dir.parsePss = files.reading.pssKib := by
  rw [ProcDir.parsePss, dir, reading]
  cases files.smaps with
  | none => rfl
  | some smaps =>
    rw [Option.map_some, Option.bind_some, findNumber_shows smaps.showsPss]
    rfl

theorem parseRss_reading : files.dir.parseRss = files.reading.rssKib := by
  rw [ProcDir.parseRss, dir, reading]
  cases files.status with
  | none => rfl
  | some status =>
    have shown := status.showsRss
    rw [Option.map_some, Option.bind_some, Option.bind_some]
    cases rss : status.rss with
    | none =>
      rw [rss] at shown
      rw [findNumber_absent shown]
    | some n =>
      rw [rss] at shown
      rw [findNumber_shows shown]

theorem sample_reading : files.dir.sample = some files.reading := by
  have stat : files.dir.stat = some files.stat.text := rfl
  rw [ProcDir.sample, stat, Option.bind_eq_bind, Option.bind_some, files.stat.parseStat_text]
  simp only [Option.bind_eq_bind, Option.bind_some, files.sumThreadCtxtSwitches_reading,
    files.parseIo_reading, files.parsePss_reading, files.parseRss_reading,
    files.readThreadTicks_reading]
  rfl

end ProcFiles

/-! The host. -/

namespace HostStat

variable (host : HostStat)

theorem cpuRow_whole : Whole host.cpuRow := by
  have inside : ∀ c ∈ host.cpuRow, c ∈ "cpu ".toList ∨ c.isDigit = true := by
    intro c member
    rcases List.mem_append.mp member with key | behind
    · exact .inl key
    obtain ⟨n, -, within⟩ := List.mem_flatMap.mp behind
    rcases List.mem_cons.mp within with rfl | digit
    · exact .inl (by decide)
    · exact .inr ((digits_toDigits n.toNat).digits c digit)
  refine ⟨fun feed => ?_, fun c last => ?_⟩
  · exact absurd (inside '\n' feed) (by decide)
  · rintro rfl
    exact absurd (inside '\r' (List.mem_of_getLast? last)) (by decide)

theorem total_fields : wrapSum id host.fields = UInt64.ofNat host.total := by
  refine UInt64.toNat_inj.mp ?_
  rw [wrapSum_toNat, UInt64.toNat_ofNat']
  rfl

theorem busy_fields : satSub (UInt64.ofNat host.total) (host.idle + host.iowait) =
    UInt64.ofNat host.busy := by
  have fits : host.total < 2 ^ 64 := host.fits
  have total : host.total = host.busy + host.idle.toNat + host.iowait.toNat := by
    simp only [HostStat.total, busy, fields, exactSum, List.map_cons, List.sum_cons, id_eq]
    omega
  have waiting : (host.idle + host.iowait).toNat = host.idle.toNat + host.iowait.toNat := by
    rw [UInt64.toNat_add, Nat.mod_eq_of_lt]
    omega
  rw [satSub, waiting, UInt64.toNat_ofNat_of_lt' fits]
  congr 1
  omega

theorem parseHostCpuLine_text :
    parseHostCpuLine host.text = (UInt64.ofNat host.busy, UInt64.ofNat host.total) := by
  have split : splitWhitespace (host.fields.flatMap fun n => ' ' :: Nat.toDigits 10 n.toNat) =
      host.fields.map fun n => Nat.toDigits 10 n.toNat := by
    refine Eq.trans ?_ (words_separated (by decide : isWhitespace ' ' = true) ?_)
    · rw [List.flatMap_map]
      rfl
    · rintro _ member
      obtain ⟨n, -, rfl⟩ := List.mem_map.mp member
      exact number_plain n
  have fields : (splitWhitespace (host.fields.flatMap fun n =>
      ' ' :: Nat.toDigits 10 n.toNat)).filterMap parseU64 = host.fields := by
    rw [split, List.filterMap_map]
    refine (List.filterMap_congr fun n _ => parseU64_number n).trans List.filterMap_some
  have enough : ¬host.fields.length < 5 := by simp [HostStat.fields]
  rw [parseHostCpuLine, text, lines_unlines (List.forall_mem_cons.mpr
    ⟨host.cpuRow_whole, host.whole⟩), List.findSome?_cons, cpuRow, afterKey_own]
  simp only [fields, enough, if_false, total_fields]
  exact congrArg (·, _) host.busy_fields

end HostStat

/-! A run of the sampler. -/

theorem Snapshot.read_shown (snapshot : Snapshot) : snapshot.read = snapshot.shown := by
  have host : snapshot.readHostStat = (snapshot.host.elim 0 fun host => UInt64.ofNat host.busy,
      snapshot.host.elim 0 fun host => UInt64.ofNat host.total) := by
    rw [Snapshot.readHostStat]
    cases snapshot.host with
    | none => rfl
    | some host => exact host.parseHostCpuLine_text
  have proc : (fun pid => (snapshot.proc pid).bind fun files => files.dir.sample) =
      fun pid => (snapshot.proc pid).map ProcFiles.reading := by
    funext pid
    simp only [ProcFiles.sample_reading, Option.map_eq_bind, Function.comp_def]
  rw [Snapshot.read, Snapshot.shown, host, proc]

/-- The samples of a run say what the files said at its ticks. -/
theorem sampled_shown (pids : List Int32) (rateHz : UInt32) (snapshots : List Snapshot) :
    sampleLoop pids rateHz (snapshots.map Snapshot.read) =
      samplesOf pids (ticks rateHz (snapshots.map Snapshot.shown)) := by
  rw [sampleLoop_ticks, List.map_congr_left fun snapshot _ => snapshot.read_shown]

theorem whole_of_clean {row : Text} (clean : '\n' ∉ row ∧ row.getLast? ≠ some '\r') : Whole row :=
  ⟨clean.1, fun _ last same => clean.2 (same ▸ last)⟩

def charField (c : Char) (plain : isWhitespace c = false ∧ c ≠ ')') : StatField :=
  ⟨[c], List.cons_ne_nil c [], List.forall_mem_singleton.mpr plain⟩

def zeroField : StatField := charField '0' (by decide)

/-- The name looks like the fields behind it. -/
def poolStat (id : Nat) (utime : UInt64) : StatLine where
  id := id
  comm := "pool) R 1 1 1".toList
  front := charField 'S' (by decide) :: List.replicate 10 zeroField
  utime := utime
  stime := 30
  middle := List.replicate 4 zeroField
  threads := 2
  back := [zeroField]
  eleven := rfl
  four := rfl

def poolStatus : LeaderFile where
  rows := ["Name:\tpool) R 1 1 1".toList, "VmRSS:\t     900 kB".toList,
    "voluntary_ctxt_switches:\t12".toList, "nonvoluntary_ctxt_switches:\t3".toList]
  whole row member := by
    apply whole_of_clean
    revert row
    decide +kernel
  voluntary := 12
  nonvoluntary := 3
  rss := some 900
  showsVoluntary := ⟨["Name:\tpool) R 1 1 1".toList, "VmRSS:\t     900 kB".toList],
    ["nonvoluntary_ctxt_switches:\t3".toList], ['\t'], [], by decide +kernel,
    List.all_eq_true.mp rfl, nofun, by decide +kernel⟩
  showsNonvoluntary := ⟨["Name:\tpool) R 1 1 1".toList, "VmRSS:\t     900 kB".toList,
    "voluntary_ctxt_switches:\t12".toList], [], ['\t'], [], by decide +kernel,
    List.all_eq_true.mp rfl, nofun, by decide +kernel⟩
  showsRss := ⟨["Name:\tpool) R 1 1 1".toList],
    ["voluntary_ctxt_switches:\t12".toList, "nonvoluntary_ctxt_switches:\t3".toList],
    "\t     ".toList, " kB".toList, by decide +kernel,
    List.all_eq_true.mp (by decide +kernel), fun _ member => Option.mem_some.mp member ▸ rfl, by decide +kernel⟩

/-- Two threads, one of which has exited since it was listed. -/
def poolFiles (utime : UInt64) : ProcFiles where
  stat := poolStat 7 utime
  status := some poolStatus
  io := none
  smaps := none
  threads := [⟨7, some (poolStat 7 utime), some poolStatus.toStatusFile⟩, ⟨8, none, none⟩]
  distinct := show [7, 8].Nodup by decide

/-- The pool at a time, with so many ticks of its leader. -/
def poolSnapshot (now : Nat) (utime : UInt64) : Snapshot :=
  ⟨now, none, fun pid => if pid = 7 then some (poolFiles utime) else none⟩

/-- Three snapshots, of which the second falls between two ticks. -/
theorem sampled_shown_pool : (sampleLoop [7] 50
    ([poolSnapshot 0 120, poolSnapshot 10000000 124, poolSnapshot 25000000 131].map
      Snapshot.read)).map
    (fun s => (s.rssKib, s.utimeTicks, s.threadTicks)) =
      [(900, 120, [(7, 150)]), (900, 131, [(7, 161)])] := by
  rw [sampled_shown]
  decide +kernel

end Seshat.System
