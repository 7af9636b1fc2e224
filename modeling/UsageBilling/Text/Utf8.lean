/-!
Text as bytes. Reading gives back what was written, and nothing that is not UTF-8 is read.
-/
namespace UsageBilling.Text

def bytes (text : String) : List UInt8 := text.toUTF8.data.toList

def ofBytes? (octets : List UInt8) : Option String := String.fromUTF8? ⟨octets.toArray⟩

theorem ofBytes?_bytes (text : String) : ofBytes? (bytes text) = some text := by
  simp [ofBytes?, bytes, String.fromUTF8?, String.fromUTF8, text.isValidUTF8]

end UsageBilling.Text
