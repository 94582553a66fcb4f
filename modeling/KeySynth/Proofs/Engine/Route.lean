import KeySynth.Proofs.Engine.Emission
import KeySynth.Proofs.Pointer.Path

/-!
The ways of the cursor.

A move goes to one point, at once or from point to point, and what the points are depends on where
the cursor is and on a few settings that no run changes: the ground it moves on.
-/

namespace KeySynth

/-- Where the cursor is told to go, from where it is or from the origin, and how fast. -/
structure Move where
  x : Int
  y : Int
  speed : Option Int
  relative : Bool
deriving DecidableEq, Repr

/-- The move that a click begins with. -/
def ClickSpec.move? (spec : ClickSpec) : Option Move :=
  match spec.x, spec.y with
  | some x, some y => some ⟨x, y, spec.speed, spec.relative⟩
  | _, _ => none

/-- What the moves of a run have in common. -/
structure Ground where
  origin : Point
  backend : Backend
  /-- The speed of moves that name none. -/
  speed : Int
  tag : Tag

namespace Ground

variable (g : Ground) (p : Point) (m : Move)

def speedOf : Int := max 0 (min (m.speed.getD g.speed) maxMouseSpeed)

/-- Where a move leads from `p`. -/
def goal : Point := if m.relative then p.offset m.x m.y else g.origin.offset m.x m.y

/-- Where moves made one after the other lead. -/
def reached (ms : List Move) : Point := ms.foldl g.goal p

/-- The move has no way, as it has no speed or is injected in a batch. -/
def AtOnce : Prop := g.speedOf m = 0 ∨ g.backend = .input

instance : Decidable (g.AtOnce m) := inferInstanceAs (Decidable (_ ∨ _))

/-- The points that a move goes to: its goal, or all those on an incremental way to it. -/
def route : List Point :=
  if g.AtOnce m then [g.goal p m] else Path.points p (g.goal p m) (g.speedOf m)

/-- The event that sends the cursor to `p`. -/
def hop : MouseRecord := ⟨.moveTo, 0, p, g.tag⟩

/-- **Every move gets to its goal**, at once or on the way. -/
theorem getLastD_route : (g.route p m).getLastD p = g.goal p m := by
  unfold route
  split_ifs
  · rfl
  · exact Path.getLastD_points ..

end Ground

namespace Run

variable {P : Type} [Platform P] (r : Run P)

/-- The ground that a run moves on. -/
def ground : Ground where
  origin := Platform.origin r.platform r.settings.coordMode r.target
  backend := r.backend
  speed := Text.signed r.settings.mouseSpeed
  tag := r.tag

/-- A move goes to one point after the other. -/
lemma moveMouse_eq (m : Move) :
    r.moveMouse m.x m.y m.speed m.relative = (r.ground.route r.cursor m).foldl moveTo r := by
  have h : r.moveMouse m.x m.y m.speed m.relative =
      if r.ground.AtOnce m then
        r.moveTo (r.ground.goal r.cursor m)
      else
        (Path.points r.cursor (r.ground.goal r.cursor m) (r.ground.speedOf m)).foldl moveTo r := rfl
  rw [h, Ground.route]
  split_ifs <;> rfl

/-- What going to `p` gives out. -/
def hops (p : Point) : List EventRecord :=
  .mouse (r.ground.hop p) :: (r.backend.mousePause r.delays.mouse).marks

lemma still_moveTo (p : Point) : (r.moveTo p).still = r.still :=
  (still_pause _ _).trans (r.still_emit _)

lemma hops_congr {s : Run P} (h : s.still = r.still) (p : Point) : s.hops p = r.hops p := by
  have hdelays : s.delays = r.delays := congrArg (·.delays) h
  simp only [hops, Ground.hop, ground, still_backend h, still_tag h, hdelays]

lemma emits_moveTo (p : Point) : Emits r (r.hops p) (r.moveTo p) := by
  set s := r.emit (.mouse (r.ground.hop p)) with hs
  have hstill : s.still = r.still := r.still_emit _
  have hdelays : s.delays = r.delays := congrArg (·.delays) hstill
  have hmarks : r.hops p = [] ++ [(EventRecord.mouse (r.ground.hop p)).carried r.backend] ++
      (s.backend.mousePause s.delays.mouse).marks := by
    rw [still_backend hstill, hdelays]
    rfl
  rw [hmarks]
  exact ((Emits.refl r).emit rfl).pause (Backend.mousePause_suits _ _)

lemma emits_foldl_moveTo (ps : List Point) : Emits r (ps.flatMap r.hops) (ps.foldl moveTo r) := by
  induction ps generalizing r with
  | nil => exact .refl r
  | cons p ps ih =>
    have hrest : (r.moveTo p).hops = r.hops := funext fun q => r.hops_congr (r.still_moveTo p) q
    have h := (r.emits_moveTo p).trans (ih (r.moveTo p))
    rwa [hrest] at h

/-- **A move gives out its points one by one**, each with the mark of a pause. -/
theorem emits_moveMouse (m : Move) :
    Emits r ((r.ground.route r.cursor m).flatMap r.hops)
      (r.moveMouse m.x m.y m.speed m.relative) := by
  rw [moveMouse_eq]
  exact r.emits_foldl_moveTo _

end Run

end KeySynth
