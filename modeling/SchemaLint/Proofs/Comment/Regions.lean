import SchemaLint.Proofs.Comment.Segmentation
import SchemaLint.Rule.Pattern

/-! Where the comments of a text are. A character of a comment is blanked and every other one is kept, so
what is left of a text does not depend on what stands in its comments.
-/
namespace SchemaLint

def Span.Covers (region : Span) (offset : Nat) : Prop :=
  region.start ≤ offset ∧ offset < region.stop

namespace Comment

instance (text : Text) : Decidable (Opens text) :=
  inferInstanceAs (Decidable (_ ∨ _))

instance (code rest : Text) : Decidable (Plain code rest) :=
  Nat.decidableBallLT _ _

namespace Segmentation

def regionsFrom (pos : Nat) (code : Text) : List (Text × Text) → List Span
  | [] => []
  | (comment,next) :: more =>
    ⟨pos + code.length,pos + code.length + comment.length⟩ ::
      regionsFrom (pos + code.length + comment.length) next more

def regions (cut : Segmentation) : List Span :=
  regionsFrom 0 cut.code cut.comments

theorem start_le_of_covers {pos offset : Nat} {code : Text} {comments : List (Text × Text)}
    {region : Span} (member : region ∈ regionsFrom pos code comments)
    (covers : region.Covers offset) : pos + code.length ≤ offset := by
  induction comments generalizing pos code with
  | nil => cases member
  | cons head more ih =>
    rcases List.mem_cons.mp member with rfl | later
    · exact covers.1
    · have behind := ih later
      omega

theorem getElem?_joinedBlank (pos : Nat) (code : Text) (comments : List (Text × Text))
    (offset : Nat) :
    (∃ region ∈ regionsFrom pos code comments, region.Covers (pos + offset)) ∧
        (code ++ joinedBlank comments)[offset]? = some ' ' ∨
      (∀ region ∈ regionsFrom pos code comments, ¬ region.Covers (pos + offset)) ∧
        (code ++ joinedBlank comments)[offset]? = (code ++ joined comments)[offset]? := by
  induction comments generalizing pos code offset with
  | nil => exact .inr ⟨fun _ member => (List.not_mem_nil member).elim,rfl⟩
  | cons head more ih =>
    obtain ⟨comment,next⟩ := head
    rw [joinedBlank_cons,joined_cons]
    rcases Nat.lt_or_ge offset code.length with inCode | behindCode
    · refine .inr ⟨fun region member covers => ?_,?_⟩
      · have late := start_le_of_covers member covers
        omega
      · rw [List.getElem?_append_left inCode,List.getElem?_append_left inCode]
    obtain ⟨inside,rfl⟩ := Nat.exists_eq_add_of_le behindCode
    rw [List.getElem?_append_right behindCode,List.getElem?_append_right behindCode,
      Nat.add_sub_cancel_left]
    rcases Nat.lt_or_ge inside comment.length with inComment | behindComment
    · refine .inl ⟨⟨_,List.mem_cons_self,by dsimp only; omega,by dsimp only; omega⟩,?_⟩
      rw [List.getElem?_append_left (by rw [List.length_replicate]; exact inComment),
        List.getElem?_replicate_of_lt inComment]
    obtain ⟨later,rfl⟩ := Nat.exists_eq_add_of_le behindComment
    have shift : pos + (code.length + (comment.length + later)) =
        pos + code.length + comment.length + later := by omega
    rw [List.getElem?_append_right (by rw [List.length_replicate]; omega),
      List.getElem?_append_right behindComment,List.length_replicate,Nat.add_sub_cancel_left,shift]
    rcases ih (pos + code.length + comment.length) next later with
      ⟨⟨region,member,covers⟩,blank⟩ | ⟨none,kept⟩
    · exact .inl ⟨⟨region,List.mem_cons_of_mem _ member,covers⟩,blank⟩
    · refine .inr ⟨fun region member => ?_,kept⟩
      rcases List.mem_cons.mp member with rfl | rest
      · rintro ⟨-,inFront⟩
        dsimp only at inFront
        omega
      · exact none region rest

end Segmentation

theorem Segmentation.Cuts.unique {cut other : Segmentation} {text : Text} (cuts : cut.Cuts text)
    (otherCuts : other.Cuts text) : cut = other := by
  obtain ⟨code,comments⟩ := Segmentation.leftmost_unique (cuts.1.trans otherCuts.1.symm) cuts.2
    otherCuts.2
  cases cut
  cases other
  simp_all

def Commented (text : Text) (offset : Nat) : Prop :=
  ∃ cut : Segmentation, cut.Cuts text ∧ ∃ region ∈ cut.regions, region.Covers offset

theorem commented_iff {text : Text} {cut : Segmentation} (cuts : cut.Cuts text) (offset : Nat) :
    Commented text offset ↔ ∃ region ∈ cut.regions, region.Covers offset := by
  constructor
  · rintro ⟨other,otherCuts,covered⟩
    rwa [cuts.unique otherCuts]
  · intro covered
    exact ⟨cut,cuts,covered⟩

theorem getElem?_neutralize_cases (text : Text) (offset : Nat) :
    Commented text offset ∧ (neutralize text)[offset]? = some ' ' ∨
      ¬ Commented text offset ∧ (neutralize text)[offset]? = text[offset]? := by
  obtain ⟨cut,cuts⟩ := Segmentation.exists_cuts text
  have cases := Segmentation.getElem?_joinedBlank 0 cut.code cut.comments offset
  rw [Nat.zero_add] at cases
  rw [Segmentation.neutralize_of_cuts cuts]
  rcases cases with ⟨covered,blank⟩ | ⟨free,kept⟩
  · exact .inl ⟨(commented_iff cuts offset).mpr covered,blank⟩
  · refine .inr ⟨fun commented => ?_,?_⟩
    · obtain ⟨region,member,covers⟩ := (commented_iff cuts offset).mp commented
      exact free region member covers
    · conv_rhs => rw [← cuts.1]
      exact kept

theorem getElem?_neutralize {text : Text} {offset : Nat} (outside : ¬ Commented text offset) :
    (neutralize text)[offset]? = text[offset]? := by
  rcases getElem?_neutralize_cases text offset with ⟨inside,-⟩ | ⟨-,kept⟩
  · exact absurd inside outside
  · exact kept

theorem neutralize_congr {text other : Text}
    (regions : ∀ offset, Commented text offset ↔ Commented other offset)
    (code : ∀ offset, ¬ Commented text offset → text[offset]? = other[offset]?) :
    neutralize text = neutralize other := by
  refine List.ext_getElem? fun offset => ?_
  rcases getElem?_neutralize_cases text offset with ⟨inside,blank⟩ | ⟨outside,kept⟩
  · rcases getElem?_neutralize_cases other offset with ⟨-,otherBlank⟩ | ⟨otherOutside,-⟩
    · rw [blank,otherBlank]
    · exact absurd ((regions offset).mp inside) otherOutside
  · rcases getElem?_neutralize_cases other offset with ⟨otherInside,-⟩ | ⟨-,otherKept⟩
    · exact absurd ((regions offset).mpr otherInside) outside
    · rw [kept,otherKept,code offset outside]

end Comment
end SchemaLint
