import ResumableUpload.Server.Run
/-!
# Servers on which nobody waits

A server is idle if nobody uses a record beyond the action that is performed
at the moment.  On an idle server no call has to wait: `Server.attend_of_idle`
says that it is answered by the store at once.
-/

namespace ResumableUpload.Server

/-- Nobody uses a record or waits for one. -/
def IsIdle (server : Server) : Prop :=
  server.line.turns = []

theorem IsIdle.not_isUsed {server : Server} (idle : server.IsIdle)
    (id : String) : server.isUsed id = false := by
  have nobody : server.line.turns = [] := idle
  simp [isUsed, Line.isUsed, Line.first?, nobody]

/-- No record is lost to anybody when the store of an idle server changes. -/
theorem IsIdle.withStore {server : Server} (idle : server.IsIdle)
    (store : Store) :
    server.withStore store = { server with store := store } := by
  have nobody : server.line.turns = [] := idle
  have lost :
      (server.store.uploads.filter fun entry =>
        server.line.isUsed entry.1 && !store.has entry.1) = [] := by
    simp [Line.isUsed, Line.first?, nobody]
  simp only [Server.withStore, lost, List.append_nil]

/-- An idle server answers a call at once, if it can read the clock for it. -/
theorem attend_of_idle {server : Server} (idle : server.IsIdle)
    (client : Client) {asked : Call}
    (readable : asked.looksAtClock = true → server.clock.isReadable = true) :
    server.attend client asked
      = .answered (server.answer asked).1 client (server.answer asked).2 := by
  have free : (asked.records server.store).find? server.isUsed = none := by
    simp [idle.not_isUsed]
  have going :
      (asked.looksAtClock && !server.clock.isReadable) = false := by
    cases looks : asked.looksAtClock with
    | false => rfl
    | true => simp [readable looks]
  rw [attend, free, going]
  rfl

end ResumableUpload.Server
