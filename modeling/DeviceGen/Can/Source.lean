/-
The source of packed messages.

A source includes the header that belongs to it, which stands in the same directory, and
defines the functions that the header declares.  It brings its own helpers, which put
words into a buffer and get them back with the low byte first whatever the machine does.
-/
import DeviceGen.Can.Header

namespace DeviceGen.Can

open DeviceGen.Text (unlines)

/-- The name of the generated source. -/
def sourceName : String := "can.pb.c"

/-- The functions that put words into a buffer and get them back. -/
def helperLines : List String := [
  "",
  "static inline void put_u32(uint8_t *buf, uint32_t v) \x7b",
  "  buf[0] = (uint8_t)v;",
  "  buf[1] = (uint8_t)(v >> 8);",
  "  buf[2] = (uint8_t)(v >> 16);",
  "  buf[3] = (uint8_t)(v >> 24);",
  "\x7d",
  "",
  "static inline uint32_t get_u32(const uint8_t *buf) \x7b",
  "  return (uint32_t)buf[0] | ((uint32_t)buf[1] << 8) |",
  "         ((uint32_t)buf[2] << 16) | ((uint32_t)buf[3] << 24);",
  "\x7d",
  "",
  "static inline void put_u64(uint8_t *buf, uint64_t v) \x7b",
  "  put_u32(buf, (uint32_t)v);",
  "  put_u32(buf + 4, (uint32_t)(v >> 32));",
  "\x7d",
  "",
  "static inline uint64_t get_u64(const uint8_t *buf) \x7b",
  "  return (uint64_t)get_u32(buf) | ((uint64_t)get_u32(buf + 4) << 32);",
  "\x7d",
  "",
  "static inline void put_f32(uint8_t *buf, float v) \x7b",
  "  uint32_t bits;",
  "  memcpy(&bits, &v, sizeof bits);",
  "  put_u32(buf, bits);",
  "\x7d",
  "",
  "static inline float get_f32(const uint8_t *buf) \x7b",
  "  uint32_t bits = get_u32(buf);",
  "  float v;",
  "  memcpy(&v, &bits, sizeof v);",
  "  return v;",
  "\x7d",
  "",
  "static inline void put_f64(uint8_t *buf, double v) \x7b",
  "  uint64_t bits;",
  "  memcpy(&bits, &v, sizeof bits);",
  "  put_u64(buf, bits);",
  "\x7d",
  "",
  "static inline double get_f64(const uint8_t *buf) \x7b",
  "  uint64_t bits = get_u64(buf);",
  "  double v;",
  "  memcpy(&v, &bits, sizeof v);",
  "  return v;",
  "\x7d"]

/-- The line that includes a header. -/
def includeLine (header : String) : String := "#include \"" ++ header ++ "\""

/-- The beginning of a source that includes a header. -/
def sourcePreamble (header : String) : String :=
  unlines ([
    "/**",
    "* Generated File, do not track!",
    "* Implements functions to pack and unpack data structures for CAN tx/rx.",
    "*/",
    "#include <string.h>",
    "",
    includeLine header] ++ helperLines)

/-- The functions of a message; one that is not packed has none. -/
def definition (message : Message) : Output.Part :=
  if message.isPacked then
    ⟨message.role, unlines (
      "" :: (packRoutine message.name message.bindings).lines
        ++ "" :: (unpackRoutine message.name message.bindings).lines)⟩
  else Output.Part.empty message.role

/-- The source of packed messages whose header has the given name. -/
def source (name header : String) (messages : List Message) : Output.File :=
  Output.assemble name (sourcePreamble (Output.baseName header)) "" (messages.map definition)

end DeviceGen.Can
