import Positional.Feature.Registry

/-!
# Sessions

A session keeps named templates and named readers, the environment and the registry, and changes
them step by step.  A step that fails stores nothing.  Readers are independent of each other, and a
reader keeps the ceiling it was first pulled with whatever happens to the environment later.
-/

namespace Positional

structure Session where
  env : Environment
  registry : Registry
  templates : List (String × Template)
  readers : List (String × Reader)

structure Substitution where
  arguments : Arguments Value
  render : Renderer Value

namespace Session

inductive Step where
  | setVariable (name : String) (value : Option String)
  | parse (target : String) (text : String) (maxIndex : Option Int)
  | reparse (target source : String) (maxIndex : Option Int)
  | inspect (source : String)
  | compare (first second : String)
  | render (source : String) (substitution : Substitution)
  | format (text : String) (maxIndex : Option Int) (substitution : Substitution)
  | open (target : String) (text : String) (maxIndex : Option Int)
  | next (reader : String)
  | take (reader : String) (count : Nat)
  | renderRest (reader : String) (substitution : Substitution)
  | register (name description text : String)
  | find (name : String)
  | list
  | run (name : String) (keywords : Keywords)

inductive Reply where
  /-- a name under which nothing is stored -/
  | unknown (name : String)
  | ceiling (maxIndex : Int)
  | template (parsed : Except Fault Template)
  | same (same : Bool)
  | rendering (rendering : Rendering)
  | opened
  | item (item : Reader.Item)
  | segments (taken : Except Fault (List Segment))
  | feature (found : Option Feature)
  | names (names : List String)
  | answer (answer : Option (Except Fault Answer))

def start (env : Environment) : Session :=
  ⟨env, .shipped, [], []⟩

def store {α : Type} (name : String) (value : α) (entries : List (String × α)) :
    List (String × α) :=
  (name, value) :: entries.filter fun entry => entry.1 ≠ name

def withTemplate (session : Session) (name : String) (template : Template) : Session :=
  { session with templates := store name template session.templates }

def withReader (session : Session) (name : String) (reader : Reader) : Session :=
  { session with readers := store name reader session.readers }

def onTemplate (session : Session) (name : String)
    (use : Template → Logged (Reply × Session)) : Logged (Reply × Session) :=
  match session.templates.lookup name with
  | some template => use template
  | none => return (.unknown name, session)

def onReader (session : Session) (name : String)
    (use : Reader → Logged (Reply × Session)) : Logged (Reply × Session) :=
  match session.readers.lookup name with
  | some reader => use reader
  | none => return (.unknown name, session)

def parseInto (session : Session) (target text : String) (maxIndex : Option Int) :
    Logged (Reply × Session) := do
  match ← Template.parse session.env text maxIndex with
  | .ok template => return (.template (.ok template), session.withTemplate target template)
  | .error fault => return (.template (.error fault), session)

def step (session : Session) : Step → Logged (Reply × Session)
  | .setVariable name value => do
    let changed := { session with env := session.env.set name value }
    return (.ceiling (← Settings.maxIndex changed.env), changed)
  | .parse target text maxIndex => session.parseInto target text maxIndex
  | .reparse target source maxIndex =>
    session.onTemplate source fun template =>
      session.parseInto target template.spelling maxIndex
  | .inspect source =>
    session.onTemplate source fun template => return (.template (.ok template), session)
  | .compare first second =>
    session.onTemplate first fun a =>
      session.onTemplate second fun b => return (.same (a.same b), session)
  | .render source substitution =>
    session.onTemplate source fun template =>
      return (.rendering (template.render substitution.render substitution.arguments), session)
  | .format text maxIndex substitution => do
    let rendering ← Positional.format session.env text maxIndex substitution.render
      substitution.arguments
    return (.rendering rendering, session)
  | .open target text maxIndex =>
    return (.opened, session.withReader target (.fresh text maxIndex))
  | .next name =>
    session.onReader name fun reader => do
      let (item, remaining) ← reader.next session.env
      return (.item item, session.withReader name remaining)
  | .take name count =>
    session.onReader name fun reader => do
      let (taken, remaining) ← Reader.take session.env count reader
      return (.segments taken, session.withReader name remaining)
  | .renderRest name substitution =>
    session.onReader name fun reader => do
      let (rendering, remaining) ← Rendering.ofReader session.env substitution.render
        substitution.arguments reader
      return (.rendering rendering, session.withReader name remaining)
  | .register name description text =>
    let feature := Feature.unlisted name description (Handler.echo text)
    return (.feature (some feature), { session with registry := session.registry.register feature })
  | .find name => return (.feature (session.registry.find? name), session)
  | .list => return (.names session.registry.names, session)
  | .run name keywords =>
    match session.registry.find? name with
    | none => return (.answer none, session)
    | some feature => do
      let answer ← feature.handler session.env keywords
      return (.answer (some answer), session)

/-- Take steps one after the other: each reply with the entries logged on the way to it. -/
def run (session : Session) : List Step → List (Logged Reply)
  | [] => []
  | step :: rest =>
    let taken := session.step step
    ⟨taken.result.1, taken.entries⟩ :: run taken.result.2 rest

end Session

end Positional
