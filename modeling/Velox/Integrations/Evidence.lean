import Velox.Integrations.Workspace
import Velox.Lib.Transcript

/-!
# What the machine has shown

A service that works on a repository knows of it what git printed and what the file
system answered. Whether one of its calls is justified is a question about the replies
before that call.

## Main definitions

* `HostLog` — the calls so far with their replies
* `Answered` — a call was answered with a value
* `Printed`, `PrintedTwice` — what commands have shown so far

## Main results

* `finds_call`, `finds_gitOutput` — what a call and a checked git command add
-/

set_option autoImplicit false

namespace Velox

/-- The calls made to the machine so far, with their replies. -/
abbrev HostLog := List (Exchange Host)

/-- A command ran successfully and printed a text. -/
def Printed (log : HostLog) (command : Command) (cwd : PurePath) (output : String) : Prop :=
  ∃ result : ProcessResult, (⟨.run command cwd, .ok result⟩ : Exchange Host) ∈ log ∧
    ¬result.Failed ∧ result.stdout = output

/-- A command printed the same text at two moments. -/
def PrintedTwice (log : HostLog) (command : Command) (cwd : PurePath) (output : String) : Prop :=
  ∃ log₁ log₂, log = log₁ ++ log₂ ∧ Printed log₁ command cwd output ∧
    Printed log₂ command cwd output

/-- A call was answered with a value. -/
def Answered (log : HostLog) (call : HostCall) (value : call.Value) : Prop :=
  (⟨call, .ok value⟩ : Exchange Host) ∈ log

section Printed

variable {log log' : HostLog} {command : Command} {cwd : PurePath} {output : String}
  {result : ProcessResult}

theorem Printed.mono (h : Printed log command cwd output) (hlog : log <+: log') :
    Printed log' command cwd output := by
  obtain ⟨result, hmem, hresult⟩ := h
  exact ⟨result, hlog.subset hmem, hresult⟩

theorem Printed.append_right (h : Printed log' command cwd output) :
    Printed (log ++ log') command cwd output := by
  obtain ⟨result, hmem, hresult⟩ := h
  exact ⟨result, List.mem_append_right _ hmem, hresult⟩

theorem printed_singleton (hresult : ¬result.Failed) :
    Printed [⟨.run command cwd, .ok result⟩] command cwd result.stdout :=
  ⟨result, List.mem_singleton_self _, hresult, rfl⟩

theorem printed_concat (hresult : ¬result.Failed) :
    Printed (log ++ [⟨.run command cwd, .ok result⟩]) command cwd result.stdout :=
  ⟨result, by simp, hresult, rfl⟩

theorem PrintedTwice.mono (h : PrintedTwice log command cwd output) (hlog : log <+: log') :
    PrintedTwice log' command cwd output := by
  obtain ⟨log₁, log₂, rfl, h₁, h₂⟩ := h
  obtain ⟨rest, rfl⟩ := hlog
  exact ⟨log₁, log₂ ++ rest, List.append_assoc .., h₁, h₂.mono (List.prefix_append ..)⟩

end Printed

theorem Answered.mono {log log' : HostLog} {call : HostCall} {value : call.Value}
    (h : Answered log call value) (hlog : log <+: log') : Answered log' call value :=
  hlog.subset h

theorem answered_concat {log : HostLog} {call : HostCall} {value : call.Value} :
    Answered (log ++ [⟨call, .ok value⟩]) call value :=
  List.mem_append_right log (List.mem_singleton_self _)

/-! ### What a call adds -/

section Finds

open TrustedGitWorkspace (gitOutput readOutput_eq_ok_iff)

variable {K : HostLog → HostCall → Prop} {t : HostLog}

theorem finds_call {call : HostCall} {B : HostLog → call.Value → Prop} (hK : K t call)
    (hB : ∀ value, B (t ++ [⟨call, .ok value⟩]) value) : (askHost call).Finds K B t := by
  refine ⟨hK, fun reply value hvalue => ?_⟩
  obtain rfl : reply = .ok value := hvalue
  exact hB value

theorem finds_gitOutput {B : HostLog → String → Prop} {failure : Raised} {command : GitCommand}
    {cwd : PurePath} (hK : K t (.run (.git command) cwd))
    (hB : ∀ result : ProcessResult, ¬result.Failed →
      B (t ++ [⟨.run (.git command) cwd, .ok result⟩]) result.stdout) :
    (gitOutput failure command cwd).Finds K B t := by
  rw [TrustedGitWorkspace.gitOutput_eq]
  refine ⟨hK, fun r output hr => ?_⟩
  obtain ⟨result, rfl, hresult, rfl⟩ := readOutput_eq_ok_iff.mp hr
  exact hB result hresult

end Finds

end Velox
