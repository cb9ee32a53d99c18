/-
What the shell is given and what comes of it.

A script is either handed over whole or not at all.  Nothing is started where the shell is not
found, the encoding does not exist, or the text has a character that the encoding lacks.  Otherwise
one program is started, and its input is the text that is meant, for the bytes of the input are
those of no other text.  What the program prints is the answer if it ends well, and all other ways
to end are answered by nothing.

An executor whose settings have the right kinds still ends with a fault in three cases.  The name
of an encoding is looked up before anything else is done with it, and that fails for a name with a
null character.  A command with a null character is not started.  And a program whose time limit
is no limit, or one that is too great, is started but not waited for.  `executor_hands_over` tells
these cases apart.
-/
import RowShell.Proofs.Number.Range
import RowShell.Proofs.Outcome
import RowShell.Proofs.Text.Encoding
import RowShell.Proofs.Value.Text
import RowShell.Shell

namespace RowShell

open Outcome

/-! ### Waiting for a program -/

/-- The limits that cannot be kept to, and why.  A limit is in seconds. -/
inductive LimitFault : Setting → Fault → Prop
  | whole {n : Int} (h : longestWait < 1000 * n ∨ Binary64.IsBeyond n) :
      LimitFault (.value (.int n)) (.scalar .tooGreat)
  | fractional {ordinal : Fin Binary64.finiteCount}
      (h : longestWait * Binary64.unitsPerOne < 1000 * Binary64.units ordinal) :
      LimitFault (.value (.float (.finite false ordinal))) (.scalar .tooGreat)
  | infinite : LimitFault (.value (.float (.infinity false))) (.scalar .tooGreat)
  | nan : LimitFault (.value (.float .nan)) (.scalar .unreadable)
  /-- What is given is neither nothing nor a number. -/
  | kind {limit : Setting} (hnull : limit ≠ .value .null) (hbool : ∀ b, limit ≠ .value (.bool b))
      (hint : ∀ n, limit ≠ .value (.int n)) (hfloat : ∀ x, limit ≠ .value (.float x)) :
      LimitFault limit .notText

variable {limit : Setting} {fault : Fault}

theorem LimitFault.limitFault?_eq (h : LimitFault limit fault) :
    limitFault? limit = some fault := by
  cases h with
  | whole h => rw [limitFault?, if_pos (h.imp id Binary64.ofInt?_eq_none.mpr)]
  | fractional h => rw [limitFault?, if_pos ⟨rfl, h⟩]
  | infinite => rfl
  | nan => rfl
  | kind hnull hbool hint hfloat =>
      unfold limitFault?
      split
      · exact absurd rfl hnull
      · exact absurd rfl (hbool _)
      · exact absurd rfl (hint _)
      · exact absurd rfl (hfloat _)
      · exact absurd rfl (hfloat _)
      · exact absurd rfl (hfloat _)
      · rfl

theorem limitFault_of_eq_some (h : limitFault? limit = some fault) : LimitFault limit fault := by
  unfold limitFault? at h
  split at h
  · cases h
  · cases h
  · rw [Option.ite_none_right_eq_some] at h
    obtain ⟨hlong, h⟩ := h
    cases h
    exact .whole (hlong.imp id Binary64.ofInt?_eq_none.mp)
  · cases h
    exact .nan
  · next negative =>
      cases negative with
      | true => cases h
      | false =>
          cases h
          exact .infinite
  · rw [Option.ite_none_right_eq_some] at h
    obtain ⟨⟨rfl, hlong⟩, h⟩ := h
    cases h
    exact .fractional hlong
  · next hnull hbool hint hnan hinfinite hfinite =>
      cases h
      refine .kind hnull hbool hint fun x => ?_
      cases x with
      | nan => exact hnan
      | infinity negative => exact hinfinite negative
      | finite negative ordinal => exact hfinite negative ordinal

/-- **A limit cannot be kept to exactly in the cases listed.** -/
theorem limitFault?_eq_some : limitFault? limit = some fault ↔ LimitFault limit fault :=
  ⟨limitFault_of_eq_some, LimitFault.limitFault?_eq⟩

/-- A limit that can be kept to can be shown. -/
theorem exists_display_of_not_limitFault (h : ∀ fault, ¬ LimitFault limit fault) :
    ∃ shown, limit.display = .ok shown := by
  by_contra hshown
  refine h .notText (.kind ?_ ?_ ?_ ?_)
  · rintro rfl
    exact hshown ⟨_, rfl⟩
  · rintro b rfl
    exact hshown ⟨_, rfl⟩
  · rintro n rfl
    refine h _ (.whole (.inr ?_))
    by_contra hbeyond
    have hsmall : n.natAbs < 2 ^ 1024 :=
      Nat.lt_of_lt_of_le (Nat.not_le.mp hbeyond) (Nat.sub_le _ _)
    have hnumeral : Value.numeral n = .ok (String.ofList (Numeral.ofInt n)) :=
      Value.numeral_eq_ok.mpr ⟨Numeral.not_isLong_of_lt (by decide) hsmall, rfl⟩
    exact hshown ⟨_, hnumeral⟩
  · rintro x rfl
    exact hshown ⟨_, rfl⟩

namespace Ending

/-- What a program printed that ended well. -/
def output? : Ending → Option (List UInt8)
  | .exited code output _ => if code = 0 then some output else none
  | .timedOut | .failed _ => none

theorem output?_eq_none {ending : Ending} : ending.output? = none ↔
    ending = .timedOut ∨ (∃ reason, ending = .failed reason) ∨
      ∃ code output errors, ending = .exited code output errors ∧ code ≠ 0 := by
  cases ending <;> simp [output?]

/-- A program that failed to start is not waited for, and any other one only within a limit that
can be kept to. -/
def IsAwaited (ending : Ending) (limit : Setting) : Prop :=
  (∃ reason, ending = .failed reason) ∨ ∀ fault, ¬ LimitFault limit fault

end Ending

theorem Started.await_of_isAwaited {program : Started} {ending : Ending}
    (h : ending.IsAwaited program.timeLimit) : program.await ending = .ok ending := by
  unfold await
  split
  · rfl
  · next hran =>
      have hkept : limitFault? program.timeLimit = none := by
        rcases h with ⟨reason, rfl⟩ | hkept
        · exact absurd rfl (hran reason)
        · exact Option.eq_none_iff_forall_ne_some.mpr fun fault hfault =>
            hkept fault (limitFault?_eq_some.mp hfault)
      rw [hkept]

theorem Started.await_of_limitFault {program : Started} {ending : Ending}
    (hran : ∀ reason, ending ≠ .failed reason) (h : LimitFault program.timeLimit fault) :
    program.await ending = .error fault := by
  unfold await
  split
  · exact absurd rfl (hran _)
  · rw [limitFault?_eq_some.mpr h]

namespace Host

variable {host : Host} {program : Started}

/-- What is left of a host after it has started a program. -/
def after (host : Host) (program : Started) : Host :=
  { host with endings := host.endings.tail, started := host.started ++ [program] }

theorem start_of_hasNull (h : program.hasNull = true) :
    host.start program = (.error (.scalar .unreadable), host) := if_pos h

theorem start_of_not_hasNull (h : ¬ program.hasNull = true) :
    host.start program = (program.await host.ending, host.after program) := if_neg h

end Host

namespace ShellConfig

variable {config : ShellConfig} {timeout : Int} {name : String}

/-- The settings have the kinds that they should have, the timeout is not too long to be written,
and the name is not that of an encoding which is left out here. -/
structure Typed (config : ShellConfig) (timeout : Int) (name : String) : Prop where
  executable : ∃ shell, config.executable = .value (.text shell)
  waits : config.timeoutMs = .value (.int timeout)
  short : ¬ Numeral.IsLong timeout
  encoding : config.encoding = .value (.text name)
  described : Encoding.isOther name = false

/-- The text that is meant for the shell: the timeout, the script, and the end of its line. -/
def meant (timeout : Int) (script : String) : String :=
  ".timeout " ++ String.ofList (Numeral.ofInt timeout) ++ "\n" ++ script ++ "\n"

/-- The shell is found, the encoding exists and is named without null characters, and it has every
character of a text. -/
structure Ready (host : Host) (name text path : String) (encoding : Encoding) : Prop where
  found : host.shell = some path
  noNull : '\x00' ∉ name.toList
  known : Encoding.ofName? name = some encoding
  has : ∀ c ∈ text.toList, encoding.Has c

/-- What is started for a call. -/
def program (config : ShellConfig) (path : String) (call : Call) (input : List UInt8) : Started :=
  let flags := (if call.mode.readOnly then ["-readonly"] else []) ++
    if call.mode.json then ["-json"] else []
  ⟨path :: flags ++ [call.target], input, config.processTimeout⟩

/-- The answer to a call whose program ended in some way: nothing if it took too long, could not be
run, or ended badly, and else what it printed. -/
structure IsAnswer (encoding : Encoding) (ending : Ending) (answer : Option String) : Prop where
  none_iff : answer = none ↔ ending = .timedOut ∨ (∃ reason, ending = .failed reason) ∨
    ∃ code output errors, ending = .exited code output errors ∧ code ≠ 0
  decoded : ∀ output errors, ending = .exited 0 output errors →
    answer = some (encoding.decode output) ∧
      ∀ printed, encoding.encode? printed = some output → answer = some printed

theorem isAnswer_output? (encoding : Encoding) (ending : Ending) :
    IsAnswer encoding ending (ending.output?.map encoding.decode) where
  none_iff := by rw [Option.map_eq_none_iff, Ending.output?_eq_none]
  decoded := by
    intro output errors hending
    subst hending
    refine ⟨rfl, ?_⟩
    intro printed hprinted
    rw [← Encoding.decode_of_encode? hprinted]
    rfl

theorem hasNull_program {path : String} {call : Call} {input : List UInt8} :
    (config.program path call input).hasNull = true ↔
      '\x00' ∈ path.toList ∨ '\x00' ∈ call.target.toList := by
  obtain ⟨target, script, readOnly, json⟩ := call
  cases readOnly <;> cases json <;> simp [program, Started.hasNull]

theorem Typed.input (h : config.Typed timeout name) (script : String) :
    config.input script = .ok (meant timeout script) := by
  have hdisplay : config.timeoutMs.display = .ok (String.ofList (Numeral.ofInt timeout)) := by
    rw [h.waits]
    show Value.numeral timeout = _
    exact Value.numeral_eq_ok.mpr ⟨h.short, rfl⟩
  rw [ShellConfig.input, timeoutStatement, hdisplay]
  rfl

theorem Typed.encoding? (h : config.Typed timeout name) (hname : '\x00' ∉ name.toList) :
    config.encoding? = .ok (Encoding.ofName? name) := by
  unfold ShellConfig.encoding?
  rw [h.encoding]
  exact if_neg (by simpa using hname)

/-- **What the shell printed is the answer if it ended well**, and else there is none. -/
theorem outcome_conclude (encoding : Encoding) (script : String) {ending : Ending}
    (h : ending.IsAwaited config.processTimeout) :
    (config.conclude encoding script ending).outcome =
      .ok (ending.output?.map encoding.decode) := by
  cases ending with
  | exited code output errors =>
      unfold conclude Ending.output?
      dsimp only
      by_cases hcode : code = 0
      · rw [if_neg (not_not.mpr hcode), if_pos hcode]
        split <;> rfl
      · rw [if_pos hcode, if_neg hcode]
        rfl
  | timedOut =>
      have hkept : ∀ fault, ¬ LimitFault config.processTimeout fault :=
        h.resolve_left fun hfailed => nomatch hfailed
      obtain ⟨shown, hshown⟩ := exists_display_of_not_limitFault hkept
      rw [conclude, Report.outcome_bind, Report.outcome_liftM, hshown]
      rfl
  | failed reason => rfl

/-- A text that cannot be encoded is not handed over. -/
theorem Typed.encodedInput?_eq_none (h : config.Typed timeout name) (hname : '\x00' ∉ name.toList)
    {script : String} (hnot : ¬ ∃ encoding, Encoding.ofName? name = some encoding ∧
      ∀ c ∈ (meant timeout script).toList, encoding.Has c) :
    config.encodedInput? script = .ok none := by
  unfold encodedInput?
  rw [h.input, h.encoding? hname]
  refine congrArg Except.ok (Option.bind_eq_none_iff.mpr ?_)
  intro encoding hencoding
  rw [Option.map_eq_none_iff]
  by_contra hsome
  obtain ⟨bytes, hbytes⟩ := Option.ne_none_iff_exists'.mp hsome
  exact hnot ⟨encoding, hencoding, Encoding.exists_encode?.mp ⟨bytes, hbytes⟩⟩

theorem Typed.encodedInput?_eq_some (h : config.Typed timeout name) (hname : '\x00' ∉ name.toList)
    {script : String} {encoding : Encoding} {bytes : List UInt8}
    (hencoding : Encoding.ofName? name = some encoding)
    (hbytes : encoding.encode? (meant timeout script) = some bytes) :
    config.encodedInput? script = .ok (some (encoding, bytes)) := by
  unfold encodedInput?
  rw [h.input, h.encoding? hname]
  show Except.ok ((Encoding.ofName? name).bind _) = _
  rw [hencoding, Option.bind_some, hbytes]
  rfl

/-! ### The executor -/

/-- **Nothing is started that is not ready**, and the call is answered with nothing. -/
theorem Typed.executor_of_not_ready (h : config.Typed timeout name) {call : Call} {host : Host}
    (hname : host.shell = none ∨ '\x00' ∉ name.toList)
    (hnot : ¬ ∃ path encoding, Ready host name (meant timeout call.script) path encoding) :
    (config.executor call host).2 = host ∧
      (config.executor call host).1.outcome = .ok none := by
  unfold executor
  cases hshell : host.shell with
  | none =>
      obtain ⟨shell, hexecutable⟩ := h.executable
      rw [hexecutable]
      exact ⟨rfl, rfl⟩
  | some path =>
      have hnull := hname.resolve_left (by simp [hshell])
      have hinput : config.encodedInput? call.script = .ok none := by
        refine h.encodedInput?_eq_none hnull ?_
        intro hencoding
        obtain ⟨encoding, hknown, hhas⟩ := hencoding
        exact hnot ⟨path, encoding, hshell, hnull, hknown, hhas⟩
      dsimp only
      rw [hinput, h.encoding]
      exact ⟨rfl, rfl⟩

/-- **A null character in the name of the encoding is a fault** wherever the shell is found. -/
theorem Typed.executor_of_null (h : config.Typed timeout name) (hname : '\x00' ∈ name.toList)
    {call : Call} {host : Host} (hshell : host.shell ≠ none) :
    config.executor call host = (Report.fail (.scalar .unreadable), host) := by
  obtain ⟨path, hpath⟩ := Option.ne_none_iff_exists'.mp hshell
  have hencoding : config.encoding? = .error (.scalar .unreadable) := by
    unfold ShellConfig.encoding?
    rw [h.encoding]
    exact if_pos (by simpa using hname)
  have hinput : config.encodedInput? call.script = .error (.scalar .unreadable) := by
    unfold encodedInput?
    rw [h.input, hencoding]
    rfl
  unfold executor
  rw [hpath]
  dsimp only
  rw [hinput]

/-- What is ready is started, if it can be. -/
theorem Typed.executor_of_encode? (h : config.Typed timeout name) {call : Call} {host : Host}
    {path : String} {encoding : Encoding} {input : List UInt8}
    (hready : Ready host name (meant timeout call.script) path encoding)
    (hinput : encoding.encode? (meant timeout call.script) = some input) :
    config.executor call host =
      match host.start (config.program path call input) with
      | (.error fault, host) => (Report.fail fault, host)
      | (.ok ending, host) => (config.conclude encoding call.script ending, host) := by
  unfold executor
  rw [hready.found, h.encodedInput?_eq_some hready.noNull hready.known hinput]
  rfl

/-- **What is ready is started once**, and answered as it ends if it is waited for. -/
theorem Typed.executor_of_ready (h : config.Typed timeout name) {call : Call} {host : Host}
    {path : String} {encoding : Encoding} {input : List UInt8}
    (hready : Ready host name (meant timeout call.script) path encoding)
    (hinput : encoding.encode? (meant timeout call.script) = some input)
    (hnull : ¬ (config.program path call input).hasNull = true) :
    (config.executor call host).2 = host.after (config.program path call input) ∧
      (host.ending.IsAwaited config.processTimeout →
        ∃ answer, (config.executor call host).1.outcome = .ok answer ∧
          IsAnswer encoding host.ending answer) ∧
      ∀ fault, (∀ reason, host.ending ≠ .failed reason) →
        LimitFault config.processTimeout fault →
          (config.executor call host).1.outcome = .error fault := by
  rw [h.executor_of_encode? hready hinput, Host.start_of_not_hasNull hnull]
  refine ⟨?_, ?_, ?_⟩
  · cases (config.program path call input).await host.ending <;> rfl
  · intro hawaited
    rw [Started.await_of_isAwaited hawaited]
    exact ⟨_, outcome_conclude encoding call.script hawaited, isAnswer_output? encoding _⟩
  · intro fault hran hfault
    rw [Started.await_of_limitFault hran hfault]
    rfl

/-- **The shell is given what is meant for it, or nothing is started.**  A program is started
exactly if it is ready and its command has no null character, and then once; its input is the text
that is meant, and that of no other text.  Its answer is nothing exactly if it took too long, could
not be run, or ended badly; else it is what the program printed, whatever it printed as errors.
There is a fault exactly if the name of the encoding or the command has a null character, or a
program that was started has a limit that cannot be kept to. -/
theorem executor_hands_over (h : config.Typed timeout name) (call : Call) (host : Host) :
    let text := meant timeout call.script
    let result := config.executor call host
    ((¬ ∃ path encoding, Ready host name text path encoding) →
      result.2 = host ∧
        (host.shell = none ∨ '\x00' ∉ name.toList → result.1.outcome = .ok none) ∧
        (host.shell ≠ none → '\x00' ∈ name.toList →
          result.1.outcome = .error (.scalar .unreadable))) ∧
    ∀ path encoding, Ready host name text path encoding →
      ∃ input, encoding.decode? input = some text ∧
        ('\x00' ∈ path.toList ∨ '\x00' ∈ call.target.toList →
          result.2 = host ∧ result.1.outcome = .error (.scalar .unreadable)) ∧
        (¬ ('\x00' ∈ path.toList ∨ '\x00' ∈ call.target.toList) →
          result.2 = host.after (config.program path call input) ∧
          (host.ending.IsAwaited config.processTimeout →
            ∃ answer, result.1.outcome = .ok answer ∧ IsAnswer encoding host.ending answer) ∧
          ∀ fault, (∀ reason, host.ending ≠ .failed reason) →
            LimitFault config.processTimeout fault → result.1.outcome = .error fault) := by
  intro text result
  constructor
  · intro hnot
    by_cases hname : host.shell = none ∨ '\x00' ∉ name.toList
    · obtain ⟨hstate, hanswer⟩ := h.executor_of_not_ready hname hnot
      exact ⟨hstate, fun _ => hanswer, fun hshell hnull =>
        absurd hname (not_or.mpr ⟨hshell, not_not.mpr hnull⟩)⟩
    · have hresult : result = (Report.fail (.scalar .unreadable), host) := by
        obtain ⟨hshell, hnull⟩ := not_or.mp hname
        exact h.executor_of_null (not_not.mp hnull) hshell
      rw [hresult]
      exact ⟨rfl, fun hname' => absurd hname' hname, fun _ _ => rfl⟩
  · intro path encoding hready
    obtain ⟨input, hinput⟩ := Encoding.exists_encode?.mpr hready.has
    refine ⟨input, Encoding.decode?_of_encode? hinput, ?_, ?_⟩
    · intro hnull
      have hresult := h.executor_of_encode? hready hinput
      rw [Host.start_of_hasNull (hasNull_program.mpr hnull)] at hresult
      rw [show result = (Report.fail (.scalar .unreadable), host) from hresult]
      exact ⟨rfl, rfl⟩
    · intro hnull
      exact h.executor_of_ready hready hinput (mt hasNull_program.mp hnull)

/-- A letter that Latin-1 has, printed besides an error.  With a null character in the target nothing
is started. -/
theorem executor_hands_over_latin1 :
    let config : ShellConfig := { ofEntries [] with encoding := .value (.text "latin-1") }
    let call : Call := ⟨"t.db", ".tables", .readJson⟩
    let nowhere : Call := ⟨"t\x00.db", ".tables", .readJson⟩
    let host : Host := ⟨some "/usr/bin/sqlite3", [.exited 0 [0xe9] [0x21]], []⟩
    (config.executor call host).1.outcome = .ok (some "é") ∧
      (config.executor call host).2.started.map Started.command =
        [["/usr/bin/sqlite3", "-readonly", "-json", "t.db"]] ∧
      (config.executor nowhere host).1.outcome = .error (.scalar .unreadable) ∧
      (config.executor nowhere host).2.started = [] := by
  intro config call nowhere host
  have htyped : config.Typed 1000 "latin-1" :=
    ⟨⟨"sqlite3", rfl⟩, rfl, by decide +kernel, rfl, by decide +kernel⟩
  have hall : (meant 1000 ".tables").toList.all (fun c => Encoding.latin1.Has c) = true := by
    decide +kernel
  have hready : Ready host "latin-1" (meant 1000 ".tables") "/usr/bin/sqlite3" .latin1 :=
    ⟨rfl, by decide, by decide +kernel, fun c hc => by simpa using List.all_eq_true.mp hall c hc⟩
  have hawaited : host.ending.IsAwaited config.processTimeout := .inr fun fault hfault => by
    rw [← limitFault?_eq_some] at hfault
    cases hfault
  obtain ⟨-, hrun⟩ := executor_hands_over htyped call host
  obtain ⟨input, -, -, hstarted⟩ := hrun _ _ hready
  obtain ⟨hafter, hended, -⟩ := hstarted (by decide)
  obtain ⟨answer, hanswer, hprints⟩ := hended hawaited
  obtain ⟨-, hnowhere⟩ := executor_hands_over htyped nowhere host
  obtain ⟨-, -, hnull, -⟩ := hnowhere _ _ hready
  obtain ⟨hsame, hfault⟩ := hnull (.inr (by decide))
  have hprinted : answer = some "é" := (hprints.decoded _ _ rfl).2 "é" (by decide +kernel)
  rw [hanswer, hafter, hprinted, hsame, hfault]
  exact ⟨rfl, rfl, rfl, rfl⟩

/-- Not every call is answered: the name of the encoding can have a null character. -/
theorem not_executor_answers :
    ¬ ∀ (config : ShellConfig) (timeout : Int) (name : String), config.Typed timeout name →
      ∀ (call : Call) (host : Host),
        ∃ answer, (config.executor call host).1.outcome = .ok answer := by
  intro h
  have htyped : ({ ofEntries [] with encoding := .value (.text "utf-8\x00") } : ShellConfig).Typed
      1000 "utf-8\x00" :=
    ⟨⟨"sqlite3", rfl⟩, rfl, by decide +kernel, rfl, by decide +kernel⟩
  have hshell : (Host.mk (some "/usr/bin/sqlite3") [] []).shell ≠ none := nofun
  obtain ⟨answer, hanswer⟩ := h _ _ _ htyped ⟨"t.db", ".tables", .write⟩
    ⟨some "/usr/bin/sqlite3", [], []⟩
  rw [htyped.executor_of_null (by decide) hshell] at hanswer
  cases hanswer

end ShellConfig

end RowShell
