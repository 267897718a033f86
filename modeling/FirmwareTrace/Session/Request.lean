import FirmwareTrace.Session.Basic

/-! # Requests to a session

A session answers requests one after the other.  Only adding a source can change
it, and then only if the source can be loaded.
-/
namespace FirmwareTrace.Session

inductive Request
  | add (source : Source)
  | counts
  | format
  | dump
  | decode (octets : ByteArray)
  | run (path : String) (follow : Bool)

inductive Answer
  | refused (failure : Failure)
  /-- The numbers of libraries and of their literals. -/
  | counts (libraries literals : Nat)
  | format (format : SourceFormat)
  | dump (value : Json String)
  | decoded (written : ByteArray) (outcome : Except Failure Decode.Stats)

def countsAnswer (session : Session) : Answer :=
  .counts session.libraries.size session.libraries.literalCount

/-- Answers a request among the files of a workspace.  The watcher of a followed run
is closed at once. -/
def answer (workspace : Workspace) (session : Session) : Request → Answer × Session
  | .add source =>
    match session.add workspace source with
    | .error failure => (.refused failure, session)
    | .ok added => (added.countsAnswer, added)
  | .counts => (session.countsAnswer, session)
  | .format => (.format session.format, session)
  | .dump => (.dump session.dump, session)
  | .decode octets =>
    let run := session.decoder.decode (.direct { data := octets }) {}
    (.decoded run.sink.written run.outcome, session)
  | .run path follow =>
    let run := session.runFile workspace path {} follow []
    (.decoded run.sink.written run.outcome, session)

/-- Answers requests in order. -/
def answerAll (workspace : Workspace) (session : Session) :
    List Request → List Answer × Session
  | [] => ([], session)
  | request :: rest =>
    let answered := session.answer workspace request
    let others := answerAll workspace answered.2 rest
    (answered.1 :: others.1, others.2)

end FirmwareTrace.Session
