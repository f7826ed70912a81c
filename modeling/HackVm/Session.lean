import HackVm.Codegen.Generator
import HackVm.Command.Grammar
import HackVm.Sink

/-!
# Writing programs

A session writes the code of commands to a sink while it reads them: the lines of
a command are written before the next line of source text is looked at. A program
is an optional bootstrap and the units in order, and the sink is asked to hand on
its bytes once everything is written. The first failure of any kind ends the
session, and what was written before stays in the sink.
-/

namespace HackVm

open Codegen

/-- A run of the generator together with the sink it writes to. -/
structure Session where
  /-- The generator. -/
  generator : Generator
  /-- The sink. -/
  sink : Sink
  /-- The messages so far. -/
  log : Array LogEntry

namespace Session

/-- Write the lines of a step of the generator. -/
def emit (session : Session) (outcome : Outcome (List Assembly.Line)) :
    Session × Except Error Unit :=
  let log := session.log ++ outcome.log
  match outcome.result with
  | .error error => (⟨outcome.generator, session.sink, log⟩, .error error)
  | .ok lines =>
    match session.sink.writeLines lines with
    | (sink, .ok ()) => (⟨outcome.generator, sink, log⟩, .ok ())
    | (sink, .error fault) => (⟨outcome.generator, sink, log⟩, .error (.resource fault))

/-- Write the code of items, up to the first that is an error or fails. -/
def writeItems (session : Session) : List (Except Error Command) → Session × Except Error Unit
  | [] => (session, .ok ())
  | .error error :: _ => (session, .error error)
  | .ok command :: items =>
    match session.emit (session.generator.lower command) with
    | (next, .ok ()) => next.writeItems items
    | (next, .error error) => (next, .error error)

/-- Write the code of a source unit. -/
def writeUnit (session : Session) (name text : String) : Session × Except Error Unit :=
  writeItems { session with generator := session.generator.enterUnit name } (Grammar.items text)

/-- Write the code of named units in order. -/
def writeUnits (session : Session) : List (String × String) → Session × Except Error Unit
  | [] => (session, .ok ())
  | (name, text) :: units =>
    match session.writeUnit name text with
    | (next, .ok ()) => next.writeUnits units
    | (next, .error error) => (next, .error error)

/-- Write the code that starts a program, if it is wanted. -/
def writeBootstrap (session : Session) (wanted : Bool) : Session × Except Error Unit :=
  if wanted then session.emit session.generator.bootstrap else (session, .ok ())

/-- Write the code of a whole program to a sink: the bootstrap, if it is wanted, and the units. -/
def writeCode (config : Config) (bootstrap : Bool) (units : List (String × String))
    (sink : Sink) : Session × Except Error Unit :=
  match writeBootstrap ⟨{ config := config }, sink, #[]⟩ bootstrap with
  | (started, .error error) => (started, .error error)
  | (started, .ok ()) => started.writeUnits units

/-- Ask the sink to hand on its bytes. -/
def finish (session : Session) : Session × Except Error Unit :=
  match session.sink.flush with
  | (sink, .ok ()) => ({ session with sink := sink }, .ok ())
  | (sink, .error fault) => ({ session with sink := sink }, .error (.resource fault))

/-- Write a whole program to a sink, and ask it to hand on the bytes once all code is written. -/
def writeProgram (config : Config) (bootstrap : Bool) (units : List (String × String))
    (sink : Sink) : Session × Except Error Unit :=
  match writeCode config bootstrap units sink with
  | (written, .error error) => (written, .error error)
  | (written, .ok ()) => written.finish

end Session

end HackVm
