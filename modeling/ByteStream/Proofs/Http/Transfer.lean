/-
# ByteStream.Proofs.Http.Transfer -- an answer in chunks arrives as it was sent

An answer is read from its bytes, not from what was meant. Where its fields are legal and not too
many, the head reads back field for field, and the last coding of the transfer is the one that the
framing added; so the body is read in chunks, and these read back one by one. What arrives is then
the answer as it was meant (`received_of_chunked`), and connections are opened on such answers.
-/

import ByteStream.Http.Answer

namespace ByteStream.Http

open Text

/-- The field that announces chunks. -/
def chunksField : String × String := ("Transfer-Encoding", BodyLength.chunkedCoding)

/-- The coding that was put last decides, whatever the fields in front of it say. -/
theorem of?_append_chunks {status : Nat} (hbody : isBodiless status = false)
    (fields : List (String × String)) :
    BodyLength.of? status
      (.ofFields (fields ++ [(lower chunksField.1, chunksField.2)])) = some .chunked := by
  have happend : HeaderMap.ofFields (fields ++ [(lower chunksField.1, chunksField.2)]) =
      (HeaderMap.ofFields fields).append codingName BodyLength.chunkedCoding := by
    rw [HeaderMap.ofFields, List.foldl_append]
    rfl
  have hvalues : ((HeaderMap.ofFields fields).append codingName
      BodyLength.chunkedCoding).values codingName =
        (HeaderMap.ofFields fields).values codingName ++ [BodyLength.chunkedCoding] :=
    HeaderMap.values_append_same _ codingName _
  have hhas : ((HeaderMap.ofFields fields).append codingName
      BodyLength.chunkedCoding).has codingName = true := by
    rw [HeaderMap.has, HeaderMap.get?, hvalues]
    cases (HeaderMap.ofFields fields).values codingName <;> rfl
  have hends : BodyLength.endsChunked BodyLength.chunkedCoding = true := by decide
  rw [happend, BodyLength.of?, hbody, if_neg (by simp), if_pos hhas, hvalues,
    List.getLast?_concat, Option.any_some, if_pos hends]

/-- **An answer in chunks arrives as it was sent**, if its fields are legal and its pieces are not
empty: under lower-case names, without a size, and piece by piece. -/
theorem received_of_chunked {a : Answer} (hstatus : isStatus a.status = true)
    (hfinal : isInterim a.status = false) (hbody : isBodiless a.status = false)
    (hframing : a.framing = .chunked false) (hstalls : a.stalls = false)
    (hlegal : ∀ field ∈ a.headers, Head.IsLegal field)
    (hcount : a.headers.length < Head.maxFields)
    (hpieces : ∀ piece ∈ a.pieces, piece ≠ [] ∧ piece.length ≤ maxCount) :
    a.received = .respond
      { status := a.status
        headers := .ofFields (a.fields.map fun field => (lower field.1, field.2))
        size := none
        body := ⟨a.pieces, .complete⟩ } := by
  have hfields : a.fields = a.headers ++ [chunksField] := by
    rw [Answer.fields, hframing]
    rfl
  have hhead : Head.read (Head.write a.fields) =
      some (.ofFields (a.fields.map fun field => (lower field.1, field.2)), []) := by
    have hall : ∀ field ∈ a.fields, Head.IsLegal field := by
      rw [hfields, List.forall_mem_append, List.forall_mem_singleton]
      exact ⟨hlegal, by decide, by decide, by decide⟩
    have hfew : a.fields.length ≤ Head.maxFields := by
      rw [hfields, List.length_append]
      exact hcount
    have hread := Head.read_write hall hfew []
    rwa [List.append_nil] at hread
  have hpayload : a.payload = a.pieces.flatMap Chunked.chunk ++ Chunked.last ++ [] := by
    rw [Answer.payload, hframing, hstalls]
    exact (List.append_nil _).symm
  have hlength : BodyLength.of? a.status
      (.ofFields (a.fields.map fun field => (lower field.1, field.2))) = some .chunked := by
    rw [hfields, List.map_append]
    exact of?_append_chunks hbody _
  have hchunks := Chunked.read_append (if a.stalls then .silent else .broken) hpieces []
  rw [← hpayload] at hchunks
  rw [Answer.received, if_neg (by simp [hstatus]), hhead]
  show a.receivedBehind _ a.payload = _
  rw [Answer.receivedBehind, hfinal, if_neg (by simp), hlength]
  dsimp only [BodyLength.body]
  rw [hchunks]
  rfl

end ByteStream.Http
