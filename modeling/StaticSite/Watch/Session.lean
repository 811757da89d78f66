/-
A watched site.

Changes are noted first, which asks for rebuilds, and then worked off: every scope for which a
rebuild waits is rebuilt.  A rebuild of any scope builds the whole site, since a compiler's output
changes the versions of the artifacts that pages refer to.
-/
import StaticSite.Build.Pass
import StaticSite.Watch.Queue

namespace StaticSite.Watch

open StaticSite.Build

/-- A site whose changes are noted. -/
structure Session where
  builder : Builder
  rules : IgnoreRules
  /-- The source folder as changes report it. -/
  root : String
  queue : RebuildQueue

namespace Session

/-- Note a change: the scope that it invalidates has to be rebuilt. -/
def note (s : Session) (change : Change) : Session :=
  match change.scope? s.rules s.root with
  | some scope => { s with queue := (s.queue.request scope).1 }
  | none => s

/-- Files and a session, with the rebuilds that have ended. -/
structure Progress where
  files : FileSystem
  session : Session
  events : List RebuildEvent

/-- Carry out the rebuild of a scope, which runs, and end it. -/
def rebuild (now : Int) (p : Progress) (scope : Scope) : Progress :=
  let (files, ending) : FileSystem × Ending :=
    match p.session.builder.build p.files now with
    | (files, .ok _) => (files, .success)
    | (files, .error _) => (files, .failure)
  match p.session.queue.finish? scope ending with
  | some (queue, event) =>
    ⟨files, { p.session with queue := queue }, p.events ++ [event]⟩
  | none => { p with files := files }

/-- Work off what has been noted. -/
def workOff (s : Session) (files : FileSystem) (now : Int) : Progress :=
  let (queue, begun) := s.queue.settle
  begun.foldl (rebuild now) ⟨files, { s with queue := queue }, []⟩

end Session

/-- The name of a scope. -/
def Scope.name : Scope → String
  | .content => "content"
  | .compiler name => name

/-- The line on a rebuild that has ended. -/
def RebuildEvent.line (e : RebuildEvent) : String :=
  if e.ok then "  ✓ Rebuilt " ++ e.scope.name
  else "  ✗ Rebuild of " ++ e.scope.name ++ " failed"

end StaticSite.Watch
