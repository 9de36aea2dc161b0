import Highlight.CommandLine.Run
import Highlight.Proofs.Host
import Highlight.Proofs.Text.Decimal

/-!
# What a run reads

On a host that observes, a run reads its settings and the code, and the world is as it was before.
It has the code if and only if what it is asked to highlight can be read (`exists_code_iff`), and
otherwise that is all it does (`Host.Observes.run_highlight`).
-/

namespace Highlight

variable {σ : Type} {host : Host (StateM σ)}

namespace CommandLine

/-- What is to be highlighted: a file, or standard input for no file and for a dash. -/
def contentOf (host : Host (StateM σ)) (world : σ) : Option Text → Except Failure ByteArray
  | none => (host.input.run world).1
  | some path =>
    if path = standardInput then (host.input.run world).1 else ((host.disk.read path).run world).1

/-- Whether what is to be highlighted can be read, and is text. -/
def IsReadable (host : Host (StateM σ)) (world : σ) (file : Option Text) : Prop :=
  ∃ text : Text, contentOf host world file = .ok text.toUtf8

theorem decoded_eq_ok_iff {content : Except Failure ByteArray} {text : Text} :
    decoded content = .ok text ↔ content = .ok text.toUtf8 := by
  unfold decoded
  cases content with
  | error failure => simp [Except.bind]
  | ok bytes =>
    simp only [Except.bind, Except.ok.injEq, ← Text.ofUtf8?_eq_some_iff]
    cases Text.ofUtf8? bytes <;> simp

end CommandLine

open CommandLine

namespace Host.Observes

/-- Reading the settings leaves the world as it is. -/
theorem run_load (observes : host.Observes) (environment : Environment) (world : σ) :
    ((Config.load host.disk environment).run world).2 = world := by
  unfold Config.load
  cases Config.path? environment with
  | none => rfl
  | some path =>
    dsimp only
    rw [run_bind, observes.run_readText]
    dsimp only
    split <;> rfl

/-- Reading the code leaves the world as it is. -/
theorem run_readCode (observes : host.Observes) (options : Options) (world : σ) :
    (readCode host options).run world =
      (decoded (contentOf host world options.file), world) := by
  unfold readCode contentOf
  cases options.file with
  | none =>
    dsimp only
    rw [run_bind, observes.input]
    cases (host.input.run world).1 <;> rfl
  | some path =>
    dsimp only
    split
    · rw [run_bind, observes.input]
      cases (host.input.run world).1 <;> rfl
    · exact observes.run_readText path world

/-- **A run that highlights** reads its settings and the code and writes something for them. -/
theorem run_highlight (observes : host.Observes) (options : Options) (world : σ) :
    (highlight host options).run world =
      match ((readCode host options).run world).1 with
      | .error failure => (.failure failure.message, world)
      | .ok code =>
        let config := ((Config.load host.disk (host.environment.run world).1).run world).1
        let presented := (present host config options code).run world
        (.success presented.1, presented.2) := by
  unfold highlight
  rw [run_bind, observes.environment, run_bind, observes.run_load, run_bind,
    observes.run_readCode]
  dsimp only
  cases decoded (contentOf host world options.file) <;> rfl

end Host.Observes

/-- A run has the code if and only if what it is asked to highlight can be read. -/
theorem CommandLine.exists_code_iff (observes : host.Observes) (options : Options) (world : σ) :
    (∃ code, ((readCode host options).run world).1 = .ok code) ↔
      IsReadable host world options.file := by
  rw [observes.run_readCode]
  exact exists_congr fun _ => decoded_eq_ok_iff

end Highlight
