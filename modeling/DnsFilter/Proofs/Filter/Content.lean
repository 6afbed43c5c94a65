import Mathlib.Tactic.SplitIfs
import DnsFilter.Filter.Content
/-!
# What is read within a limit

A content is taken as a whole or not at all, in whatever pieces it comes, and the limit is for its
whole length. So a file can be read within a limit just if it can be read and is not longer, and a
server that sends the same bytes gives the same content.
-/
namespace DnsFilter

namespace Intake

/-- Pieces are taken behind what came before, as long as all of it keeps to the limit. -/
theorem foldlM_take? (limit : Nat) (pieces : List Bytes) {x : Intake} (hx : x.size ≤ limit) :
    (pieces.foldlM (take? limit) x).map content =
      if x.size + pieces.flatten.length ≤ limit then some (x.content ++ pieces.flatten)
      else none := by
  induction pieces generalizing x with
  | nil =>
    rw [List.flatten_nil, List.append_nil, if_pos (by simpa using hx)]
    rfl
  | cons piece pieces ih =>
    rw [List.foldlM_cons, List.flatten_cons, List.length_append]
    by_cases hover : limit < x.size + piece.length
    · have hnone : take? limit x piece = none := if_pos hover
      rw [hnone, if_neg (by omega)]
      rfl
    · have hsome : take? limit x piece = some
          ⟨piece ++ x.buffer.drop piece.length,
            (piece ++ x.buffer.drop piece.length).take piece.length :: x.taken,
            x.size + piece.length⟩ := if_neg hover
      rw [hsome]
      refine (ih (Nat.not_lt.mp hover)).trans ?_
      simp only [content, List.take_left, List.reverse_cons, List.flatten_append,
        List.flatten_singleton, Nat.add_assoc, List.append_assoc]

theorem gather?_eq (limit : Nat) (buffer : Bytes) (pieces : List Bytes) :
    gather? limit buffer pieces =
      if pieces.flatten.length ≤ limit then some pieces.flatten else none := by
  rw [gather?, foldlM_take? limit pieces (Nat.zero_le limit)]
  simp [content]

end Intake

theorem flatten_piecesOf {room : Nat} (hroom : room ≠ 0) (content : Bytes) :
    (piecesOf room content).flatten = content := by
  fun_induction piecesOf room content with
  | case1 content hend => rw [hend.resolve_left hroom, List.flatten_nil]
  | case2 content hmore ih => rw [List.flatten_cons, ih, List.take_append_drop]

/-- A content that keeps to a limit, or the failure for one that is too long. -/
def Attempt.limited (name : String) (limit : Nat) (content : Bytes) : Attempt :=
  if content.length ≤ limit then .ok content else .error (.filterTooLarge name limit)

theorem Attempt.limited_eq_ok_iff {name : String} {limit : Nat} {read content : Bytes} :
    Attempt.limited name limit read = .ok content ↔ read = content ∧ content.length ≤ limit := by
  unfold Attempt.limited
  by_cases hlength : read.length ≤ limit
  · rw [if_pos hlength, Except.ok.injEq]
    constructor
    · rintro rfl
      exact ⟨rfl, hlength⟩
    · exact And.left
  · rw [if_neg hlength]
    constructor
    · intro h
      cases h
    · rintro ⟨rfl, hle⟩
      exact absurd hle hlength

theorem readPieces_eq {name : String} {limit : Nat} {buffer : Bytes} (hbuffer : buffer ≠ [])
    (pieces : List Bytes) :
    readPieces name limit buffer pieces = Attempt.limited name limit pieces.flatten := by
  rw [readPieces, if_neg hbuffer, Intake.gather?_eq, Attempt.limited]
  by_cases hlength : pieces.flatten.length ≤ limit
  · rw [if_pos hlength, if_pos hlength]
  · rw [if_neg hlength, if_neg hlength]

theorem readPieces_piecesOf {name : String} {limit : Nat} {buffer : Bytes} (hbuffer : buffer ≠ [])
    (content : Bytes) :
    readPieces name limit buffer (piecesOf buffer.length content) =
      Attempt.limited name limit content := by
  have hroom : buffer.length ≠ 0 := by simpa using hbuffer
  rw [readPieces_eq hbuffer, flatten_piecesOf hroom]

/-- A file that can be read is read in the pieces that fit the buffer, and any other reading fails
as well. -/
theorem readFile_cases (name : String) (limit : Nat) (buffer : Bytes) (d : Disk) (path : String) :
    (∃ content, d.read path = .ok content ∧
      readFile name limit buffer d path =
        readPieces name limit buffer (piecesOf buffer.length content)) ∨
    ∃ e failure, d.read path = .error e ∧ readFile name limit buffer d path = .error failure := by
  unfold readFile Disk.read
  cases d.find path with
  | error e => exact .inr ⟨e, _, rfl, rfl⟩
  | ok found =>
    obtain ⟨p, node⟩ := found
    cases node with
    | directory => exact .inr ⟨_, _, rfl, rfl⟩
    | plain c => exact .inl ⟨c, rfl, rfl⟩
    | packed c => exact .inl ⟨c, rfl, rfl⟩

/-- A file is read within a limit just if it is not longer. -/
theorem readFile_eq_ok_iff {name : String} {limit : Nat} {buffer : Bytes} (hbuffer : buffer ≠ [])
    {d : Disk} {path : String} {content : Bytes} :
    readFile name limit buffer d path = .ok content ↔
      d.read path = .ok content ∧ content.length ≤ limit := by
  rcases readFile_cases name limit buffer d path with ⟨c, hread, hfile⟩ | ⟨e, f, hread, hfile⟩
  · rw [hread, hfile, readPieces_piecesOf hbuffer, Attempt.limited_eq_ok_iff, Except.ok.injEq]
  · simp [hread, hfile]

/-- Nothing is read without a buffer, and nothing that is too long. -/
theorem read_of_readFile {name : String} {limit : Nat} {buffer content : Bytes} {d : Disk}
    {path : String} (h : readFile name limit buffer d path = .ok content) :
    d.read path = .ok content ∧ content.length ≤ limit := by
  have hbuffer : buffer ≠ [] := by
    rintro rfl
    rcases readFile_cases name limit [] d path with ⟨c, -, hfile⟩ | ⟨e, f, -, hfile⟩
    · simp [hfile, readPieces] at h
    · simp [hfile] at h
  exact (readFile_eq_ok_iff hbuffer).mp h

theorem Reply.content_length_le {name url : String} {limit : Nat} {reply : Reply} {content : Bytes}
    (h : reply.content name url limit = .ok content) : content.length ≤ limit := by
  cases reply with
  | unreachable reason => cases h
  | silent => cases h
  | answered status declared pieces ending =>
    simp only [Reply.content, Intake.gather?_eq] at h
    split_ifs at h with _ _ hlength
    cases ending with
    | complete =>
      obtain rfl := Except.ok.inj h
      exact hlength
    | broken reason => cases h
    | stalled => cases h

theorem Reply.content_complete {name url : String} {limit status : Nat} {declared : Option Nat}
    {pieces : List Bytes} (hstatus : Reply.isSuccess status = true)
    (hdeclared : ∀ n, declared = some n → n = pieces.flatten.length) :
    (Reply.answered status declared pieces .complete).content name url limit =
      Attempt.limited name limit pieces.flatten := by
  have hnot : ¬(!Reply.isSuccess status) = true := by simp [hstatus]
  simp only [Reply.content, if_neg hnot, Intake.gather?_eq, Attempt.limited]
  by_cases hlength : pieces.flatten.length ≤ limit
  · -- what is declared is the length of the body, so it is no reason to refuse it
    have hdeclares : declared.any (limit < ·) = false := by
      cases declared with
      | none => rfl
      | some n =>
        have hn := hdeclared n rfl
        simp only [Option.any_some, decide_eq_false_iff_not]
        omega
    rw [hdeclares, if_pos hlength, if_pos hlength]
    rfl
  · rw [if_neg hlength, if_neg hlength]
    split_ifs <;> rfl

/-- A content is read as a whole exactly if it keeps to the limit, and is too large otherwise,
through whatever buffer and in whatever pieces it comes: from a reader, from a file or a cached copy
on the disk, and from a server whose complete answer declares its length or does not. -/
theorem limit_is_exact {buffer : Bytes} (hbuffer : buffer ≠ []) (name : String) (limit : Nat)
    (content : Bytes) :
    (∀ pieces : List Bytes, pieces.flatten = content →
      readPieces name limit buffer pieces = Attempt.limited name limit content) ∧
    (∀ d path, Disk.read d path = .ok content →
      readFile name limit buffer d path = Attempt.limited name limit content) ∧
    (∀ url status declared chunks, Reply.isSuccess status = true → chunks.flatten = content →
      (∀ n, declared = some n → n = content.length) →
        (Reply.answered status declared chunks .complete).content name url limit =
          Attempt.limited name limit content) := by
  refine ⟨?_, ?_, ?_⟩
  · rintro pieces rfl
    exact readPieces_eq hbuffer pieces
  · intro d path h
    rcases readFile_cases name limit buffer d path with ⟨c, hread, hfile⟩ | ⟨e, f, hread, -⟩
    · obtain rfl := Except.ok.inj (hread.symm.trans h)
      rw [hfile, readPieces_piecesOf hbuffer]
    · rw [hread] at h
      cases h
  · rintro url status declared chunks hstatus rfl hdeclared
    exact Reply.content_complete hstatus hdeclared

/-- Three bytes pass a limit of three and not one of two, in two pieces through a used buffer, from
a file, and in two chunks of an answer. -/
theorem three_bytes_in_two_pieces :
    let buffer : Bytes := [7, 7]
    let disk : Disk := ⟨[(["ads.txt"], .plain [1, 2, 3])]⟩
    let answer : Reply := .answered 200 (some 3) [[1], [2, 3]] .complete
    buffer ≠ [] ∧ readPieces "Ads" 3 buffer [[1, 2], [3]] = .ok [1, 2, 3] ∧
      readFile "Ads" 3 buffer disk "ads.txt" = .ok [1, 2, 3] ∧
      answer.content "Ads" "http://lists.example" 3 = .ok [1, 2, 3] ∧
      readPieces "Ads" 2 buffer [[1, 2], [3]] = .error (.filterTooLarge "Ads" 2) ∧
      readFile "Ads" 2 buffer disk "ads.txt" = .error (.filterTooLarge "Ads" 2) ∧
      answer.content "Ads" "http://lists.example" 2 = .error (.filterTooLarge "Ads" 2) := by
  intro buffer disk answer
  have hbuffer : buffer ≠ [] := by decide
  have hdisk : disk.read "ads.txt" = .ok [1, 2, 3] := by rfl
  obtain ⟨hpieces, hfile, hanswer⟩ := limit_is_exact hbuffer "Ads" 3 [1, 2, 3]
  obtain ⟨hpieces', hfile', hanswer'⟩ := limit_is_exact hbuffer "Ads" 2 [1, 2, 3]
  refine ⟨hbuffer, hpieces _ rfl, hfile _ _ hdisk, hanswer _ _ _ _ rfl rfl ?_, hpieces' _ rfl,
    hfile' _ _ hdisk, hanswer' _ _ _ _ rfl rfl ?_⟩
  · simp
  · simp

end DnsFilter
