import StoryGraph.Session

/-!
# Runs

One turn: all roots of a graph are evaluated against a context, and what they give is added to
it. A run never fails; problems become warnings. A host takes turn after turn on one context.

A configuration without a seed leaves it open where the draws of a run begin. So a run begins at any
chance, and the run with a seed is one of these.

Main definitions: `Engine.runFrom`, `Engine.run`, `Context.converse`.
-/

namespace StoryGraph

/-- A summary of a run. -/
structure RunReport where
  /-- The ids that the run activated, in the order of their activation. -/
  activatedIds : List String
  warnings : List String
  /-- How often operators ran, by node id. -/
  executions : List (String × Nat)
  /-- The number of roots. -/
  roots : Nat
deriving DecidableEq

/-- A context while a run adds to it, with the ids that the run has activated so far. -/
structure Tally where
  context : Context
  activated : List String := []

namespace Tally

/-- Activates an id, which counts for the run if it is new to the context. -/
def activate (tally : Tally) (id : String) : Tally :=
  let (isNew, context) := tally.context.activate id
  if isNew && !tally.activated.contains id then ⟨context, tally.activated ++ [id]⟩
  else ⟨context, tally.activated⟩

def appendTexts (tally : Tally) (texts : Character) : Tally :=
  { tally with context.character := TextField.all.foldl (fun character field =>
      character.append field (texts.get field)) tally.context.character }

def addFragment (tally : Tally) (fragment : Fragment) : Tally :=
  fragment.ids.foldl activate (tally.appendTexts fragment.texts)

end Tally

/-- Takes over what a session recorded besides its fragments. -/
def Context.addRecords (context : Context) (session : Session) : Context :=
  session.warnings.foldl warn { context with
    chatHighlights := session.marks.slots context.messages.length
    debugNodes := session.trace.executed.foldl addNew context.debugNodes
    debugPorts := context.debugPorts.merge session.trace.ports }

namespace Engine

/-- The session after all roots have been evaluated, where the draws begin at the given chance and
calls are nested at most `depth` deep. -/
def sessionWithin (engine : Engine) (depth : Nat) (chance : Chance) (context : Context) : Session :=
  (Scene.collectRootsWith ((Scene.mk engine context).evaluateWithin depth) engine.roots
    { Session.start engine.config with chance }).2

def sessionFrom (engine : Engine) (chance : Chance) (context : Context) : Session :=
  engine.sessionWithin (engine.nodeCount + 1) chance context

/-- What a run makes of the session that it ends with. -/
def conclude (engine : Engine) (context : Context) (session : Session) : Context × RunReport :=
  let tally := session.fragments.foldl Tally.addFragment { context }
  (tally.context.addRecords session, {
    activatedIds := tally.activated
    warnings := session.warnings
    executions := session.executions.map fun (node, count) => (engine.nodeId node, count)
    roots := engine.roots.length })

def runWithin (engine : Engine) (depth : Nat) (chance : Chance) (context : Context) :
    Context × RunReport :=
  engine.conclude context (engine.sessionWithin depth chance context)

/-- Evaluates the graph once against a context, where the draws begin at the given chance. -/
def runFrom (engine : Engine) (chance : Chance) (context : Context) : Context × RunReport :=
  engine.conclude context (engine.sessionFrom chance context)

def chance (engine : Engine) (entropy : Chance := .ofSeed 0) : Chance :=
  engine.config.chance entropy

/-- Evaluates the graph once against a context. The entropy counts if there is no seed. -/
def run (engine : Engine) (context : Context) (entropy : Chance := .ofSeed 0) :
    Context × RunReport :=
  engine.runFrom (engine.chance entropy) context

end Engine

/-! ## Conversations -/

/-- One turn of a conversation: messages come in, then an engine runs. -/
structure Turn where
  messages : List Message
  engine : Engine
  /-- Where the draws of the run begin. -/
  chance : Chance

namespace Context

def hear (context : Context) (messages : List Message) : Context :=
  { context with messages := context.messages ++ messages }

/-- The context after some turns, and the reports of all of them. -/
def converse (context : Context) : List Turn → Context × List RunReport
  | [] => (context, [])
  | turn :: rest =>
    let (after, report) := turn.engine.runFrom turn.chance (context.hear turn.messages)
    let (last, reports) := converse after rest
    (last, report :: reports)

end Context

end StoryGraph
