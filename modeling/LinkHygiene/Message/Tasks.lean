import LinkHygiene.Message.Clean
import LinkHygiene.Resolve.Basic

/-!
# Tasks

How the links of a message are cleaned when their tasks take turns. Each task resolves one
link, level by level, and can fail on the way; the tasks share nothing that changes. What a
task ends with is put in the place of its link when it is collected, which is done for one
ended task after the other, in any order. Links stay as they are until then.
-/

namespace LinkHygiene

namespace Message

/-- A task that resolves the link at `index`: the steps left to it, and how far it has come. -/
structure LinkTask where
  index : Nat
  budget : Nat
  trace : Trace
  link : String
deriving Repr, DecidableEq

inductive Progress where
  | running (task : LinkTask)
  /-- The task has ended and waits to be collected. -/
  | ended (c : Completion)
  | collected
deriving Repr, DecidableEq

inductive Turn where
  | advance
  | fail
  | collect
deriving Repr, DecidableEq

structure Event where
  index : Nat
  turn : Turn
deriving Repr, DecidableEq

namespace LinkTask

def start (index : Nat) (link : String) : LinkTask :=
  ⟨index, Resolver.maxDepth + 1, {}, link⟩

/-- One step of the resolution, as in `Resolver.run`. -/
def advance (r : Resolver) (task : LinkTask) : Progress :=
  match task.budget with
  | 0 => .ended ⟨task.index, some task.link⟩
  | budget + 1 =>
      match r.step task.trace task.link with
      | (.done link, _) => .ended ⟨task.index, some link⟩
      | (.follow link, t) => .running ⟨task.index, budget, t, link⟩

end LinkTask

namespace Progress

/-- What a turn makes of a task; not every turn is possible. -/
def next? (r : Resolver) : Turn → Progress → Option Progress
  | .advance, .running task => some (task.advance r)
  | .fail, .running task => some (.ended ⟨task.index, none⟩)
  | .collect, .ended _ => some .collected
  | _, _ => none

def write (links : List String) : Turn → Progress → List String
  | .collect, .ended c => complete links c
  | _, _ => links

end Progress

/-- The tasks, and the links with the results collected so far. -/
structure Tasks where
  progress : List Progress
  links : List String
deriving Repr, DecidableEq

namespace Tasks

def start (links : List String) : Tasks :=
  ⟨links.mapIdx fun i link => .running (.start i link), links⟩

/-- One turn, where each task has a resolver of its own. -/
def step? (resolvers : Nat → Resolver) (s : Tasks) (e : Event) : Option Tasks :=
  s.progress[e.index]?.bind fun p =>
    (p.next? (resolvers e.index) e.turn).map fun next =>
      ⟨s.progress.set e.index next, p.write s.links e.turn⟩

/-- Turns in some order; nothing if one of them is not possible. -/
def run? (resolvers : Nat → Resolver) (s : Tasks) (events : List Event) : Option Tasks :=
  events.foldlM (step? resolvers) s

def isOver (s : Tasks) : Bool :=
  s.progress.all (· = .collected)

end Tasks

end Message

end LinkHygiene
