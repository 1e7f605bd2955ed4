import StoryGraph.Session

/-!
# Calls

What a host can ask of a session from outside, one call after the other. Each call is carried out
with a way to find the values of ports; a session finds them by evaluation.

Main definitions: `Call`, `Scene.answerWith`, `Scene.after`.
-/

namespace StoryGraph

/-- A call on a session. -/
inductive Call where
  | evaluate (node : Nat) (port : String)
  | evaluatePort (node : Nat) (port : Ref)
  | input (node : Nat) (port : String)
  | inputs (node : Nat) (port : String)
  | setting (node : Nat) (key : String)
  | text (node : Nat) (key : String)
  | number (node : Nat) (key : String) (default : Float)
  | flag (node : Nat) (key : String) (default : Bool)
  | collectRoot (root : Nat)
  | warn (text : String)
  | mark (mark : Mark)
  | draw

/-- What a call gives back. -/
inductive Answer where
  | value (v : Value)
  | values (vs : List Value)
  | text (s : Option String)
  | number (x : Float)
  | flag (b : Bool)
  | done

namespace Scene

/-- Carries out a call, with values of ports found as given. -/
def answerWith (scene : Scene) (pull : Pull) : Call → StateM Session Answer
  | .evaluate node port => return .value (← pull node port)
  | .evaluatePort node port => return .value (← scene.pullPort pull node port)
  | .input node port => return .value (← scene.performWith pull node (Body.ask port))
  | .inputs node port => return .values (← scene.performWith pull node (Body.askAll port))
  | .setting node key =>
    return .text (← scene.performWith pull node ((scene.site node).askSetting key))
  | .text node key => return .text (← scene.performWith pull node (Body.askText key))
  | .number node key default =>
    return .number (← scene.performWith pull node (Body.askNumber key default))
  | .flag node key default =>
    return .flag (← scene.performWith pull node (Body.askFlag key default))
  | .collectRoot root => do
    collectRootWith pull root
    return .done
  | .warn text => do
    modify (·.warn text)
    return .done
  | .mark mark => do
    modify (·.mark mark)
    return .done
  | .draw => return .number (← scene.performWith pull 0 Body.chance)

def answer (scene : Scene) : Call → StateM Session Answer := scene.answerWith scene.evaluate

def goOn (scene : Scene) (session : Session) (calls : List Call) : Session :=
  calls.foldl (fun session call => (scene.answer call session).2) session

/-- The session after some calls, when its draws begin at the given chance. -/
def after (scene : Scene) (chance : Chance) (calls : List Call) : Session :=
  scene.goOn { Session.start scene.engine.config with chance } calls

end Scene

end StoryGraph
