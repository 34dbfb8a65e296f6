import ComponentCompiler.Watch.Basic

/-!
# The watch loop

The loop takes in events as they come. An event that makes a source due starts a timer anew, and
when the timer fires all pending sources are compiled.
-/

namespace ComponentCompiler.Watch

/-- What the loop waits for. -/
inductive Signal where
  | event (e : Event)
  /-- Watching met an error. -/
  | failure (text : Bytes)
  /-- The quiet period after the last due event is over. -/
  | timer
  deriving DecidableEq, Repr, Inhabited

/-- The state of the loop. -/
structure Loop where
  watcher : Watcher
  /-- Whether the timer is running. -/
  armed : Bool := false
  session : Session
  deriving Repr, Inhabited

/-- The beginning of the loop: the log names the watched roots. -/
def begin (j : Job) (w : Watcher) (s : Session) : Loop where
  watcher := w
  session := j.log s (Bytes.lit "watching " ++ (Bytes.lit ", ").intercalate w.roots)

namespace Loop

/-- One step of the loop. -/
def step (j : Job) (l : Loop) : Signal → Loop
  | .event e =>
    let (w, due) := l.watcher.queue l.session.tree j.options.extension e
    { l with watcher := w, armed := l.armed || due }
  | .failure text => { l with session := j.log l.session (Bytes.lit "watcher error: " ++ text) }
  | .timer =>
    if l.armed then
      let (w, s) := l.watcher.flush j l.session
      { watcher := w, armed := false, session := s }
    else l

/-- The loop after a list of signals. -/
def run (j : Job) (l : Loop) (signals : List Signal) : Loop := signals.foldl (step j) l

end Loop

end ComponentCompiler.Watch
