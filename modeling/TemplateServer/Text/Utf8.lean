import TemplateServer.Text.Basic

namespace TemplateServer

abbrev Bytes := List UInt8

namespace Text

def bytes (s : Text) : Bytes := s.flatMap String.utf8EncodeChar

def ofBytes? (b : Bytes) : Option Text := b.toByteArray.utf8Decode?.map Array.toList

theorem toByteArray_bytes (s : Text) : s.bytes.toByteArray = s.utf8Encode := rfl

theorem ofBytes?_bytes (s : Text) : ofBytes? s.bytes = some s := by
  simp [ofBytes?, toByteArray_bytes]

theorem eq_bytes_of_ofBytes? {b : Bytes} {s : Text} (h : ofBytes? b = some s) : b = s.bytes := by
  obtain ⟨a, ha, rfl⟩ := Option.map_eq_some_iff.1 h
  have hs : b.toByteArray.utf8Decode?.isSome := by simp [ha]
  have he := ByteArray.utf8Encode_get_utf8Decode? (h := hs)
  simp only [ha, Option.get_some] at he
  have hb := congrArg (fun x => x.data.toList) he
  simpa [← toByteArray_bytes] using hb.symm

theorem ofBytes?_eq_some_iff {b : Bytes} {s : Text} : ofBytes? b = some s ↔ b = s.bytes :=
  ⟨eq_bytes_of_ofBytes?, fun h => h ▸ ofBytes?_bytes s⟩

theorem bytes_append (s t : Text) : bytes (s ++ t) = s.bytes ++ t.bytes := by simp [bytes]

end Text

end TemplateServer
