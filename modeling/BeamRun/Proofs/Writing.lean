import BeamRun.Program

/-! Every command writes a whole document or nothing: whatever can fail has come to its result before
the first piece is written. -/

namespace BeamRun

namespace Writing

variable {α β : Type}

/-- Work that tells nothing and cannot fail: it adds a text to whatever was written before. -/
def Adds (x : Writing α) (text : String) (a : α) : Prop :=
  ∀ written, x.after written = ⟨[], (.ok a, written ++ text)⟩

theorem after_bind (x : Writing α) (f : α → Writing β) (written : String) :
    (x >>= f).after written =
      (x.after written >>= fun done => match done with
        | (.ok a, written) => (f a).after written
        | (.error e, written) => pure (.error e, written)) := by
  have opened : (x >>= f).after written =
      (x.after written >>= fun done => ExceptT.bindCont f done.1 done.2) := rfl
  rw [opened]
  congr
  funext done
  rcases done with ⟨result, now⟩
  cases result <;> rfl

theorem adds_pure (a : α) : Adds (pure a) "" a := by
  intro written
  rw [String.append_empty]
  rfl

theorem adds_write (text : String) : Adds (write text) text () := fun _ => rfl

theorem Adds.bind {x : Writing α} {f : α → Writing β} {first second : String} {a : α} {b : β}
    (before : Adds x first a) (behind : Adds (f a) second b) :
    Adds (x >>= f) (first ++ second) b := by
  intro written
  rw [after_bind, before written, ← String.append_assoc]
  exact behind (written ++ first)

theorem adds_forM {as : List α} {piece : α → Writing Unit} {text : α → String}
    (each : ∀ a, Adds (piece a) (text a) ()) :
    Adds (as.forM piece) (String.join (as.map text)) () := by
  induction as with
  | nil => exact adds_pure ()
  | cons a as ih =>
    rw [List.map_cons, String.join_cons]
    exact (each a).bind ih

/-- Work that comes to a whole text without having written anything, and then writes it. -/
def Delivers (x : Writing α) (whole : Attempt (String × α)) : Prop :=
  ∀ written, x.after written =
    ⟨whole.run.events, match whole.run.result with
      | .ok (text, a) => (.ok a, written ++ text)
      | .error f => (.error f, written)⟩

theorem Adds.delivers {x : Writing α} {text : String} {a : α} (adds : Adds x text a) (b : β) :
    Delivers (x >>= fun _ => pure b) (pure (text, b)) := by
  rw [← String.append_empty (s := text)]
  exact adds.bind (adds_pure b)

theorem delivers_bind (x : Attempt α) {f : α → Writing β} {g : α → Attempt (String × β)}
    (each : ∀ a, Delivers (f a) (g a)) : Delivers (ofAttempt x >>= f) (x >>= g) := by
  intro written
  have attempted : (ofAttempt x).after written = ⟨x.run.events, (x.run.result, written)⟩ := rfl
  have opened : (x >>= g).run = x.run >>= ExceptT.bindCont g := rfl
  rw [after_bind, attempted, opened]
  rcases x.run with ⟨events, result⟩
  cases result with
  | error e => rfl
  | ok a =>
    exact congrArg (fun rest => (⟨events ++ rest.events, rest.result⟩ : Logged _)) (each a written)

end Writing

open Writing (Adds Delivers adds_pure adds_write adds_forM delivers_bind)

namespace Json

def document (v : Json) (pretty : Bool) : String := (if pretty then v.pretty else v.text) ++ "\n"

theorem adds_document (v : Json) (pretty : Bool) : Adds (v.write pretty) (v.document pretty) () :=
  (adds_write _).bind (adds_write _)

end Json

namespace Listing

theorem adds_options (colored : Bool) (o : Options) :
    Adds (writeOptions colored o) (options colored o) () :=
  (adds_write _).bind (adds_forM fun f => adds_write (option o f))

theorem adds_rejection (colored : Bool) (r : Report Violation) :
    Adds (writeRejection colored r) (rejection colored r) () :=
  (adds_write _).bind (adds_forM fun v => adds_write (violation colored v))

end Listing

namespace World

def acceptance (w : World) (format : OutputFormat) (o : Options) : String :=
  match format with
  | .json => o.toJson.document true
  | .text => Listing.options w.colored o

def rejection (w : World) (format : OutputFormat) (r : Report Violation) : String :=
  match format with
  | .json => (r.toJson Violation.toJson).document true
  | .text => Listing.rejection w.colored r

def document (w : World) : Command → Attempt (String × Outcome)
  | .validate input format => do
    match ← w.prepare input with
    | .accepted o => pure (w.acceptance format o, .accepted)
    | .rejected r => pure (w.rejection format r, .rejected)
  | .cards input => do
    match ← w.prepare input with
    | .accepted o =>
      let text ← ExceptT.mk ((·.mapError TooWide.failure) <$> o.cards)
      pure (text, .accepted)
    | .rejected r => pure (w.rejection .text r, .rejected)
  | .defaults pretty => pure (Options.builtin.toJson.document pretty, .accepted)

theorem delivers_document (w : World) (c : Command) : Delivers (w.perform c) (w.document c) := by
  cases c with
  | defaults pretty => exact (Json.adds_document _ pretty).delivers _
  | validate input format =>
    refine delivers_bind (w.prepare input) fun checked => ?_
    cases checked with
    | accepted o =>
      cases format with
      | json => exact (Json.adds_document _ true).delivers _
      | text => exact (Listing.adds_options _ o).delivers _
    | rejected r =>
      cases format with
      | json => exact (Json.adds_document _ true).delivers _
      | text => exact (Listing.adds_rejection _ r).delivers _
  | cards input =>
    refine delivers_bind (w.prepare input) fun checked => ?_
    cases checked with
    | accepted o => exact delivers_bind _ fun text => (adds_write text).delivers _
    | rejected r => exact (Listing.adds_rejection _ r).delivers _

/-- A run in terms of its document: all of it is written, or nothing. -/
theorem run_eq (w : World) (c : Command) :
    w.run c =
      ⟨(w.document c).run.events, match (w.document c).run.result with
        | .ok (text, outcome) => ⟨text, .ok outcome⟩
        | .error f => ⟨"", .error f⟩⟩ := by
  rw [run, w.delivers_document c ""]
  cases (w.document c).run.result with
  | ok done => simp only [String.empty_append]
  | error f => rfl

end World
end BeamRun
