import FormulaOcr.Proofs.Action
import FormulaOcr.Proofs.Json.RoundTrip
import FormulaOcr.Session

/-! Connections of the message channel. Every frame gets one reply, in the order of the frames, that
bears the id of its frame and tells how its command ended. A connection remembers nothing: what
frames leave behind is the world alone. -/

namespace FormulaOcr

open FormulaOcr.Action

theorem run_answer (frame : String) (w : World) :
    (Channel.answer frame).run w =
      match exec (Channel.dispatch (Channel.message frame)) w with
      | (.ok reply, v) => (Channel.success ((Channel.message frame).member "id") reply, v)
      | (.error e, v) => (Channel.refusal ((Channel.message frame).member "id") e, v) := by
  unfold Channel.answer
  dsimp only
  rw [StateT.run_bind]
  cases hexec : exec (Channel.dispatch (Channel.message frame)) w with
  | mk result v =>
    have hrun : StateT.run (ExceptT.run (Channel.dispatch (Channel.message frame))) w =
        (result, v) := hexec
    rw [hrun]
    cases result <;> rfl

/-- An object as the text of a frame or of the body of a request. -/
def written (members : Dictionary Json) : String :=
  .ofList (Json.write Json.oneLine (.obj members))

theorem message_written {members : Dictionary Json} (h : (Json.obj members).Sound) :
    Channel.message (written members) = .obj members := by
  rw [Channel.message, written, String.toList_ofList, Json.read_write _ h]

/-- The world after some frames. -/
def after (w : World) (frames : List String) : World :=
  ((Channel.connection frames).run w).2

theorem after_cons (w : World) (frame : String) (frames : List String) :
    after w (frame :: frames) = after ((Channel.answer frame).run w).2 frames := by
  rw [after, Channel.connection, List.mapM_cons]
  rfl

theorem after_join (w : World) (front back : List String) :
    after w (front ++ back) = after (after w front) back := by
  induction front generalizing w with
  | nil => rfl
  | cons frame front ih => rw [List.cons_append, after_cons, after_cons, ih]

theorem after_append (w : World) (frames : List String) (frame : String) :
    after w (frames ++ [frame]) = ((Channel.answer frame).run (after w frames)).2 := by
  rw [after_join]
  rfl

namespace Channel

/-- How a reply with an id tells the end of a command: a result, a failure of a known kind in the
user's language, or a crash, of which there is always something to say. -/
inductive Tells (id : Json) : Except Fault Reply → Json → Prop
  | result (reply : Reply) :
    Tells id (.ok reply) (.obj [("id", id), ("ok", .bool true), ("result", reply.toJson)])
  | failure (f : Failure) :
    Tells id (.error (.failure f)) (.obj
      [("id", id), ("ok", .bool false), ("error", .str f.message),
       ("code", .int f.complaint.kind.status), ("error_type", .str f.complaint.kind.label)])
  | crash (c : Crash) (text : String) (htext : text ≠ "")
    (hsame : c.message ≠ "" → text = c.message) :
    Tells id (.error (.crash c)) (.obj
      [("id", id), ("ok", .bool false), ("error", .str text), ("code", .int 500)])

end Channel

open Channel Session

end FormulaOcr
