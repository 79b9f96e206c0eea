import ResumableUpload.Proofs.Solo.Life
import ResumableUpload.Proofs.Solo.Likeness
/-!
# Servers without a host

A server is alone if nobody waits there, nothing fails and no host watches.  It
stays alone whatever it lives through, and no request takes time on it.
-/

namespace ResumableUpload

/-- A host that watches nowhere watches nowhere to the end. -/
theorem Program.play_unwatched {α : Type} (program : Program α) {scene : Scene}
    (unwatched : scene.IsUnwatched) :
    (program.play scene).scene.IsUnwatched :=
  program.play_keeps (fun _ action unwatched => unwatched.perform action)
    unwatched

theorem Played.left_unwatched {α : Type} {played : Played α}
    (unwatched : played.scene.IsUnwatched) : played.left.IsUnwatched := by
  cases played with
  | finished value scene => exact unwatched
  | waiting scene | collapsed scene =>
      rw [left, Scene.part]
      split <;> exact unwatched

namespace Server

/-- Nobody waits on a server, nothing fails there, and no host watches. -/
structure IsAlone (server : Server) : Prop where
  quiet : server.IsQuiet
  unwatched : ∀ hook, server.hooks hook = none

namespace IsAlone

variable {server : Server}

theorem scene (alone : server.IsAlone) (client : Client) (news : List News) :
    (server.scene client news).IsUnwatched :=
  alone.unwatched

theorem visit (alone : server.IsAlone) (visit : Visit) :
    (server.visit visit).2.2.IsAlone := by
  obtain ⟨-, quiet, news, seen⟩ := alone.quiet.visit_depicts visit
  have still := Played.left_unwatched ((Protocol.program server.service
    visit.request).play_unwatched (alone.scene visit.client visit.news))
  rw [← seen] at still
  exact ⟨quiet, still⟩

theorem undergo (alone : server.IsAlone) (occurrence : Occurrence) :
    (server.undergo occurrence).IsAlone := by
  cases occurrence with
  | visit visit => exact alone.visit visit
  | elapse milliseconds =>
      exact ⟨⟨alone.quiet.idle, alone.quiet.faultless⟩, alone.unwatched⟩
  | sweep =>
      obtain ⟨client, news, seen⟩ := alone.quiet.sweep_depicts
      have still := (Protocol.sweep server.service).caught.play_unwatched
        (alone.scene {} [])
      rw [← seen] at still
      exact ⟨(alone.quiet.undergo_succeeds .sweep).quiet, still⟩

theorem live (alone : server.IsAlone) (occurrences : List Occurrence) :
    (server.live occurrences).IsAlone :=
  live_induction occurrences alone fun _ occurrence alone =>
    alone.undergo occurrence

end IsAlone

/-- No time passes while a request is handled. -/
theorem IsQuiet.visit_clock {server : Server} (quiet : server.IsQuiet)
    (visit : Visit) : (server.visit visit).2.2.clock = server.clock := by
  obtain ⟨-, -, news, seen⟩ := quiet.visit_depicts visit
  have ground := Played.left_ground (Program.play_ground
    (Protocol.program server.service visit.request)
    (server.scene visit.client visit.news))
  rw [← seen] at ground
  exact ground.clock

end Server

end ResumableUpload
