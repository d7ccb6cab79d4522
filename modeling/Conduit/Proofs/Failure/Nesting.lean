import Conduit.Failure.Basic
import Mathlib.Logic.Function.Iterate
/-!
# Failures that are passed on

A failure may be seen as an I/O error, that error passed on as a failure, and so on. Nothing piles
up on the way: however often this happens, the I/O error is that of the failure where it began, and
a failure that was passed on says once that it is about I/O.

An I/O error that carries a refusal is itself one that was passed on. So the failure where it began
is looked for behind such an error too: it is a refusal, or an I/O error that carries none.

## Main definitions

* `Conduit.Failure.passOn`: a failure seen as an I/O error and passed on.
* `Conduit.Failure.origin`: the failure behind an I/O error that carries a refusal.
* `Conduit.Failure.Tells`: what an I/O error says of the failure where it began.

## Main results

* `toIoError_iterate_passOn`: passing on does not change the I/O error.
* `Nested.toIoError_build`: neither does wrapping, to any depth.
* `conversions_collapse`: there and back any number of times is there once.
-/

namespace Conduit

/-- The failure behind an I/O error: the refusal that it carries, or the error itself. -/
def IoError.origin : IoError → Failure
  | refused r => .refusal r
  | e => .io e

namespace Failure

/-- A failure seen as an I/O error and passed on as a failure again. -/
def passOn (f : Failure) : Failure := io f.toIoError

/-- The failure behind a failure that was passed on. -/
def origin : Failure → Failure
  | refusal r => refusal r
  | io e => e.origin

theorem toIoError_passOn (f : Failure) : f.passOn.toIoError = f.toIoError := rfl

theorem toIoError_iterate_passOn (f : Failure) (n : Nat) :
    (passOn^[n] f).toIoError = f.toIoError := by
  induction n generalizing f with
  | zero => rfl
  | succ n ih => rw [Function.iterate_succ_apply, ih, toIoError_passOn]

/-- What is wrapped has the I/O error of what it was wrapped around. -/
theorem Nested.toIoError_build (e : Nested) : e.build.toIoError = e.innermost.toIoError := by
  induction e with
  | leaf f => rfl
  | wrapped inner ih => exact ih

/-- The text of a failure by itself, whether or not it was passed on. -/
def text : Failure → String
  | refusal r => r.message
  | io e => e.message

/-- An I/O error says of a failure what there is to say: its kind, the refusal if it is one, and its
text. Passed on as a failure, it adds to the text that it is about I/O. -/
structure Tells (x : IoError) (f : Failure) : Prop where
  kind : x.kind =
    match f with
    | refusal (.invalidArgument _) => .invalidInput
    | refusal (.shortWrite _ _) => .writeZero
    | refusal .noAdapter => .other
    | refusal .createFailed => .other
    | io e => e.kind
  /-- The refusal comes back as it was. -/
  carried : x.refusal? =
    match f with
    | refusal r => some r
    | io _ => none
  text : x.message = f.text
  /-- The text is marked once. -/
  shown : (io x).message = "I/O: " ++ f.text

theorem tells_origin (f : Failure) : Tells f.toIoError f.origin := by
  cases f with
  | refusal r => exact ⟨by cases r <;> rfl, rfl, rfl, rfl⟩
  | io e =>
    cases e with
    | plain kind => exact ⟨rfl, rfl, rfl, rfl⟩
    | worded kind message => exact ⟨rfl, rfl, rfl, rfl⟩
    | refused r => exact ⟨by cases r <;> rfl, rfl, rfl, rfl⟩

/-- **There and back any number of times is there once.** An I/O error that is passed on comes back
as itself. A failure that was wrapped to any depth, and is then passed on any number of times, has
one I/O error throughout, which tells all of the failure in its middle and nothing of the way. -/
theorem conversions_collapse :
    (∀ x : IoError, (io x).toIoError = x) ∧
      ∀ (e : Nested) (n : Nat),
        (passOn^[n] e.build).toIoError = e.build.toIoError ∧
          Tells (passOn^[n] e.build).toIoError e.innermost.origin := by
  refine ⟨toIoError_io, fun e n => ⟨toIoError_iterate_passOn e.build n, ?_⟩⟩
  rw [toIoError_iterate_passOn, e.toIoError_build]
  exact tells_origin e.innermost

example : (Nested.wrapped (.wrapped (.leaf (.refusal .noAdapter)))).build.message =
    "I/O: No adapter attached to BIO" := rfl

end Failure

end Conduit
