import SessionHub.Deployment.Work

/-!
# Running a deployment

The machine lets one job go on at a time, from one wait to the next. Jobs that may go on do so in
the order in which they could, first come, first served; of several whose time has come at once, the
earlier deadline comes first. The jobs that a job waits for itself go on together with it. When
nobody may go on, the clock moves straight to the next deadline: time passes only while everybody
waits.

One job at a time may **lead**: it stands for whoever runs the deployment. When its time has come it
goes before all others, and when somebody else let it go on it waits until all others have.

The machine is one total function of its state. Its fuel bounds the number of stretches that are run
for one purpose.
-/

namespace SessionHub

/-- A job that is under way: what it waits for, if it waits, and how it goes on. -/
structure Fiber where
  job : JobRef
  rest : Task Round

/-- A deployment under way. -/
structure Machine where
  world : World := {}
  /-- The jobs that may go on, the first in line first. -/
  ready : List Fiber := []
  /-- The job that leads. -/
  leader : Option JobRef := none
  /-- The leading job, when it may go on as soon as nobody else can. -/
  patient : List Fiber := []
  /-- The jobs that wait, those that have waited longest first. -/
  waiting : List (Wait × Fiber) := []
  /-- How many entries of the table of jobs are under way or over. -/
  enlisted : Nat := 0

namespace Machine

/-- Runs a task up to its next wait that is not over: how it ended, or what it waits for. -/
def advance {α : Type} : Task α → World → World × (α ⊕ (Wait × Task α))
  | .done a, w => (w, .inl a)
  | .look next, w => advance (next w) w
  | .put w next, _ => advance next w
  | .call wait resume, w =>
    if wait.isOver w then advance (resume ()) w else (w, .inr (wait, resume ()))

/-- Takes the jobs that were started meanwhile under way. Those with a parent go to the front. -/
def enlist (m : Machine) : Machine :=
  let new := (List.range (m.world.jobs.size - m.enlisted)).map (m.enlisted + ·)
  let fibers := new.filterMap fun j =>
    let job := m.world.job j
    match job.work with
    | .errand => none
    | work => if job.phase.hasEnded then none else some (job, { job := j, rest := work.round j : Fiber })
  let (children, others) := fibers.partition fun f => f.1.parent.isSome
  { m with
    ready := children.map (·.2) ++ m.ready ++ others.map (·.2)
    enlisted := m.world.jobs.size }

/-- Whom a job goes on together with. -/
def owner (w : World) (j : JobRef) : JobRef := ((w.job j).parent).getD j

/-- Jobs in their order, but those that go on together one after the other. -/
def gather (w : World) (fibers : List Fiber) : List Fiber :=
  let groups := fibers.foldl (fun (groups : List (JobRef × List Fiber)) f =>
    let o := owner w f.job
    if groups.any (·.1 == o) then groups.map fun g => if g.1 == o then (o, g.2 ++ [f]) else g
    else groups ++ [(o, [f])]) []
  groups.flatMap (·.2)

/-- Whether a job has been dropped, or the job that waits for it. -/
def isDropped (w : World) (j : JobRef) : Bool :=
  w.hasEnded j || (match (w.job j).parent with
    | some p => match (w.job p).phase with
      | .dropped => true
      | _ => false
    | none => false)

/-- Takes the jobs that have been dropped out of the machine. -/
def reap (m : Machine) : Machine :=
  let jobs := (m.ready ++ m.patient ++ m.waiting.map (·.2)).map (·.job)
  let gone := jobs.filter (isDropped m.world)
  if gone.isEmpty then m
  else
    let world := gone.foldl (fun w j => (w.endJob j .dropped).release (w.job j).work) m.world
    { m with
      world
      ready := m.ready.filter fun f => !gone.contains f.job
      patient := m.patient.filter fun f => !gone.contains f.job
      waiting := m.waiting.filter fun f => !gone.contains f.2.job }

/-- Whether a job leads, or goes on together with the one that does. -/
def leads (m : Machine) (f : Fiber) : Bool := m.leader == some (owner m.world f.job)

/-- Puts the jobs whose wait is over in line. -/
def wake (m : Machine) : Machine :=
  let (ready, waiting) := m.waiting.partition fun f => f.1.isOver m.world
  let (urgent, others) := ready.partition (·.1.urgent)
  let (called, due) := others.partition fun f => f.1.ready m.world
  let due := due.mergeSort fun f g => decide (f.1.deadline.getD 0 ≤ g.1.deadline.getD 0)
  let (leadDue, due) := (due.map (·.2)).partition m.leads
  let (leadCalled, called) := (called.map (·.2)).partition m.leads
  { m with
    waiting
    ready := urgent.map (·.2) ++ leadDue ++ m.ready ++ gather m.world (due ++ called)
    patient := m.patient ++ leadCalled }

/-- What has to be seen to after the state has changed. -/
def tidy (m : Machine) : Machine := m.enlist.reap.wake

/-- A job ends. -/
def finish (j : JobRef) (phase : Phase) (m : Machine) : Machine :=
  let world := (m.world.endJob j phase).release (m.world.job j).work
  { m with world }

/-- Lets a job go on up to its next wait. -/
def stretch (f : Fiber) (m : Machine) : Machine :=
  let (world, outcome) := advance f.rest m.world
  let m := { m with world }
  (match outcome with
    | .inr (wait, rest) => { m with waiting := m.waiting ++ [(wait, { f with rest })] }
    | .inl .again => { m with ready := { f with rest := (world.job f.job).work.round f.job } :: m.ready }
    | .inl (.finished answer) => m.finish f.job (.finished answer)
    | .inl .panicked => m.finish f.job .panicked).tidy

/-- The next deadline of those that wait. -/
def nextDeadline (m : Machine) : Option Nat :=
  (m.waiting.filterMap (·.1.deadline)).min?

/-- Runs whoever may go on until a goal is reached, and lets time pass when nobody may. -/
def runUntil (goal : Machine → Bool) : (fuel : Nat) → Machine → Machine
  | 0, m => m
  | fuel + 1, m =>
    if goal m then m
    else
      match m.ready, m.patient with
      | f :: rest, _ => runUntil goal fuel (stretch f { m with ready := rest })
      | [], f :: rest => runUntil goal fuel (stretch f { m with patient := rest })
      | [], [] =>
        match m.nextDeadline with
        | some t => runUntil goal fuel { m with world := { m.world with now := max m.world.now t } }.tidy
        | none => m

/-- Runs until nobody can go on without time passing. -/
def settle (fuel : Nat) (m : Machine) : Machine := runUntil (fun m => m.ready.isEmpty && m.patient.isEmpty) fuel m.tidy

/-- Puts a task of its own under way, in front of everybody. -/
def launch (task : JobRef → Task Json) (m : Machine) : JobRef × Machine :=
  let m := m.enlist
  let (job, world) := m.world.startJob .errand none
  let rest : Task Round := do return .finished (← task job)
  (job, { m with world, ready := { job, rest } :: m.ready, enlisted := m.enlisted + 1 })

/-- The answer of a job that is over. -/
def answer? (m : Machine) (j : JobRef) : Option Json :=
  match (m.world.job j).phase with
  | .finished answer => some answer
  | _ => none

/-- Runs a task to its end and everything else as far as it can go by then. -/
def perform (fuel : Nat) (task : JobRef → Task Json) (m : Machine) : Json × Machine :=
  let (job, m) := m.launch task
  let m := runUntil (·.world.hasEnded job) fuel { m with leader := some job }
  ((m.answer? job).getD .null, m.settle fuel)

end Machine

end SessionHub
