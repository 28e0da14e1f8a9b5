import Recital.Desk.Json
import Recital.Proofs.Entity.Codecs

/-!
# The commands are read back
-/

set_option autoImplicit false

namespace Recital.Desk

open Json

theorem PieceCommand.faithful : PieceCommand.record.Faithful where
  names := by decide
  keeps := by
    simp only [record, List.forall_mem_cons]
    exact ⟨.of (Intent.faithful Piece.faithful).codec piece (absurd rfl),
      .of (Intent.faithful Composer.faithful).codec composer (absurd rfl), List.forall_mem_nil _⟩
  apart := by
    simp only [record, List.pairwise_cons, List.forall_mem_cons]
    and_intros
    all_goals first | exact Field.spares (fun _ => rfl) fun _ _ => rfl | simp
  ext := by
    rintro ⟨⟩ ⟨⟩ h
    simpa [record, Field.of, (Intent.faithful Piece.faithful).codec.injective.eq_iff,
      (Intent.faithful Composer.faithful).codec.injective.eq_iff] using h

theorem venueCommand_faithful : venueCommand.Faithful where
  names := by decide
  keeps := by
    simp only [venueCommand, wrapped, List.forall_mem_cons]
    exact ⟨.of (Intent.faithful Venue.faithful).codec id (absurd rfl), List.forall_mem_nil _⟩
  apart := List.pairwise_singleton _ _
  ext i j h := by
    simpa [venueCommand, wrapped, Field.of, (Intent.faithful Venue.faithful).codec.injective.eq_iff] using h

theorem codec_optionalVenue :
    Codec (optional (Intent.record Venue.record).read) (Value.ofOption (Intent.record Venue.record).write) :=
  (Intent.faithful Venue.faithful).codec.optional fun _ => Value.noConfusion

theorem EventCommand.faithful : EventCommand.record.Faithful where
  names := by decide
  keeps := by
    simp only [record, List.forall_mem_cons]
    exact ⟨.of EventDetails.faithful.codec event (absurd rfl), .of codec_optionalVenue venue fun _ => rfl,
      .of codec_optionalText tempId fun _ => rfl, List.forall_mem_nil _⟩
  apart := by
    simp only [record, List.pairwise_cons, List.forall_mem_cons]
    and_intros
    all_goals first | exact Field.spares (fun _ => rfl) fun _ _ => rfl | simp
  ext := by
    rintro ⟨⟩ ⟨⟩ h
    simpa [record, Field.of, EventDetails.faithful.codec.injective.eq_iff,
      codec_optionalVenue.injective.eq_iff] using h

end Recital.Desk
