/-
The messages in which schemas travel.

Schemas reach a generator as messages themselves, of a fixed set of kinds.  A kind is no
more than a table of its fields, in the order of their numbers, so everything that is
done with messages (reading, merging, writing) is written once, by recursion on a table.

Enumerated fields of these messages are plain 32-bit integers here: any number is kept.
-/
import DeviceGen.Wire.Scalar

namespace DeviceGen.Descriptor

open DeviceGen.Wire (Scalar Place)

/-- The kinds of messages that schemas, requests and responses are made of. -/
inductive Kind where
  | request
  | response
  | fileSet
  | version
  | file
  | generatedFile
  | message
  | enumeration
  | service
  | field
  | fileOptions
  | sourceInfo
  | generatedInfo
  | extensionRange
  | messageOptions
  | oneof
  | reservedRange
  | enumValue
  | enumOptions
  | enumReservedRange
  | method
  | serviceOptions
  | fieldOptions
  | uninterpretedOption
  | location
  | generatedSpan
  | extensionRangeOptions
  | oneofOptions
  | enumValueOptions
  | methodOptions
  | namePart
  deriving DecidableEq, Repr

/-- What a field holds. -/
inductive FieldType where
  /-- A value, or none. -/
  | optional (scalar : Scalar)
  /-- A value, always written. -/
  | required (scalar : Scalar)
  /-- Values in order, written under one key if `packed` and under a key each if not. -/
  | list (scalar : Scalar) (packed : Bool)
  /-- A message, or none. -/
  | message (kind : Kind)
  /-- Messages in order. -/
  | messages (kind : Kind)
  deriving DecidableEq, Repr

/-- A field of a kind of message: its number, its name and what it holds. -/
structure Field where
  number : Nat
  name : String
  type : FieldType
  deriving DecidableEq, Repr

namespace Field

/-- A field with at most one value. -/
abbrev optional (number : Nat) (name : String) (scalar : Scalar) : Field :=
  ⟨number, name, .optional scalar⟩

/-- A field with exactly one value. -/
abbrev required (number : Nat) (name : String) (scalar : Scalar) : Field :=
  ⟨number, name, .required scalar⟩

/-- A field with any number of values, each under its own key. -/
abbrev list (number : Nat) (name : String) (scalar : Scalar) : Field :=
  ⟨number, name, .list scalar false⟩

/-- A field with any number of values under one key. -/
abbrev packed (number : Nat) (name : String) (scalar : Scalar) : Field :=
  ⟨number, name, .list scalar true⟩

/-- A field with at most one message. -/
abbrev message (number : Nat) (name : String) (kind : Kind) : Field :=
  ⟨number, name, .message kind⟩

/-- A field with any number of messages. -/
abbrev messages (number : Nat) (name : String) (kind : Kind) : Field :=
  ⟨number, name, .messages kind⟩

end Field

namespace Kind

/-- The name of a kind in messages about refused bytes. -/
def name : Kind → String
  | request => "CodeGeneratorRequest"
  | response => "CodeGeneratorResponse"
  | fileSet => "FileDescriptorSet"
  | version => "Version"
  | file => "FileDescriptorProto"
  | generatedFile => "File"
  | message => "DescriptorProto"
  | enumeration => "EnumDescriptorProto"
  | service => "ServiceDescriptorProto"
  | field => "FieldDescriptorProto"
  | fileOptions => "FileOptions"
  | sourceInfo => "SourceCodeInfo"
  | generatedInfo => "GeneratedCodeInfo"
  | extensionRange => "ExtensionRange"
  | messageOptions => "MessageOptions"
  | oneof => "OneofDescriptorProto"
  | reservedRange => "ReservedRange"
  | enumValue => "EnumValueDescriptorProto"
  | enumOptions => "EnumOptions"
  | enumReservedRange => "EnumReservedRange"
  | method => "MethodDescriptorProto"
  | serviceOptions => "ServiceOptions"
  | fieldOptions => "FieldOptions"
  | uninterpretedOption => "UninterpretedOption"
  | location => "Location"
  | generatedSpan => "Annotation"
  | extensionRangeOptions => "ExtensionRangeOptions"
  | oneofOptions => "OneofOptions"
  | enumValueOptions => "EnumValueOptions"
  | methodOptions => "MethodOptions"
  | namePart => "NamePart"

/-- The fields of a kind, by increasing number. -/
def fields : Kind → List Field
  | request => [
      .list 1 "file_to_generate" .text, .optional 2 "parameter" .text,
      .message 3 "compiler_version" .version, .messages 15 "proto_file" .file]
  | response => [
      .optional 1 "error" .text, .optional 2 "supported_features" .uint64,
      .messages 15 "file" .generatedFile]
  | fileSet => [.messages 1 "file" .file]
  | version => [
      .optional 1 "major" .int32, .optional 2 "minor" .int32, .optional 3 "patch" .int32,
      .optional 4 "suffix" .text]
  | file => [
      .optional 1 "name" .text, .optional 2 "package" .text, .list 3 "dependency" .text,
      .messages 4 "message_type" .message, .messages 5 "enum_type" .enumeration,
      .messages 6 "service" .service, .messages 7 "extension" .field,
      .message 8 "options" .fileOptions, .message 9 "source_code_info" .sourceInfo,
      .list 10 "public_dependency" .int32, .list 11 "weak_dependency" .int32,
      .optional 12 "syntax" .text]
  | generatedFile => [
      .optional 1 "name" .text, .optional 2 "insertion_point" .text, .optional 15 "content" .text,
      .message 16 "generated_code_info" .generatedInfo]
  | message => [
      .optional 1 "name" .text, .messages 2 "field" .field, .messages 3 "nested_type" .message,
      .messages 4 "enum_type" .enumeration, .messages 5 "extension_range" .extensionRange,
      .messages 6 "extension" .field, .message 7 "options" .messageOptions,
      .messages 8 "oneof_decl" .oneof, .messages 9 "reserved_range" .reservedRange,
      .list 10 "reserved_name" .text]
  | enumeration => [
      .optional 1 "name" .text, .messages 2 "value" .enumValue, .message 3 "options" .enumOptions,
      .messages 4 "reserved_range" .enumReservedRange, .list 5 "reserved_name" .text]
  | service => [
      .optional 1 "name" .text, .messages 2 "method" .method, .message 3 "options" .serviceOptions]
  | field => [
      .optional 1 "name" .text, .optional 2 "extendee" .text, .optional 3 "number" .int32,
      .optional 4 "label" .int32, .optional 5 "r#type" .int32, .optional 6 "type_name" .text,
      .optional 7 "default_value" .text, .message 8 "options" .fieldOptions,
      .optional 9 "oneof_index" .int32, .optional 10 "json_name" .text,
      .optional 17 "proto3_optional" .bool]
  | fileOptions => [
      .optional 1 "java_package" .text, .optional 8 "java_outer_classname" .text,
      .optional 9 "optimize_for" .int32, .optional 10 "java_multiple_files" .bool,
      .optional 11 "go_package" .text, .optional 16 "cc_generic_services" .bool,
      .optional 17 "java_generic_services" .bool, .optional 18 "py_generic_services" .bool,
      .optional 20 "java_generate_equals_and_hash" .bool, .optional 23 "deprecated" .bool,
      .optional 27 "java_string_check_utf8" .bool, .optional 31 "cc_enable_arenas" .bool,
      .optional 36 "objc_class_prefix" .text, .optional 37 "csharp_namespace" .text,
      .optional 39 "swift_prefix" .text, .optional 40 "php_class_prefix" .text,
      .optional 41 "php_namespace" .text, .optional 42 "php_generic_services" .bool,
      .optional 44 "php_metadata_namespace" .text, .optional 45 "ruby_package" .text,
      .messages 999 "uninterpreted_option" .uninterpretedOption]
  | sourceInfo => [.messages 1 "location" .location]
  | generatedInfo => [.messages 1 "annotation" .generatedSpan]
  | extensionRange => [
      .optional 1 "start" .int32, .optional 2 "end" .int32,
      .message 3 "options" .extensionRangeOptions]
  | messageOptions => [
      .optional 1 "message_set_wire_format" .bool,
      .optional 2 "no_standard_descriptor_accessor" .bool, .optional 3 "deprecated" .bool,
      .optional 7 "map_entry" .bool, .messages 999 "uninterpreted_option" .uninterpretedOption]
  | oneof => [.optional 1 "name" .text, .message 2 "options" .oneofOptions]
  | reservedRange => [.optional 1 "start" .int32, .optional 2 "end" .int32]
  | enumValue => [
      .optional 1 "name" .text, .optional 2 "number" .int32,
      .message 3 "options" .enumValueOptions]
  | enumOptions => [
      .optional 2 "allow_alias" .bool, .optional 3 "deprecated" .bool,
      .messages 999 "uninterpreted_option" .uninterpretedOption]
  | enumReservedRange => [.optional 1 "start" .int32, .optional 2 "end" .int32]
  | method => [
      .optional 1 "name" .text, .optional 2 "input_type" .text, .optional 3 "output_type" .text,
      .message 4 "options" .methodOptions, .optional 5 "client_streaming" .bool,
      .optional 6 "server_streaming" .bool]
  | serviceOptions => [
      .optional 33 "deprecated" .bool, .messages 999 "uninterpreted_option" .uninterpretedOption]
  | fieldOptions => [
      .optional 1 "ctype" .int32, .optional 2 "packed" .bool, .optional 3 "deprecated" .bool,
      .optional 5 "lazy" .bool, .optional 6 "jstype" .int32, .optional 10 "weak" .bool,
      .messages 999 "uninterpreted_option" .uninterpretedOption]
  | uninterpretedOption => [
      .messages 2 "name" .namePart, .optional 3 "identifier_value" .text,
      .optional 4 "positive_int_value" .uint64, .optional 5 "negative_int_value" .int64,
      .optional 6 "double_value" .double, .optional 7 "string_value" .bytes,
      .optional 8 "aggregate_value" .text]
  | location => [
      .packed 1 "path" .int32, .packed 2 "span" .int32, .optional 3 "leading_comments" .text,
      .optional 4 "trailing_comments" .text, .list 6 "leading_detached_comments" .text]
  | generatedSpan => [
      .packed 1 "path" .int32, .optional 2 "source_file" .text, .optional 3 "begin" .int32,
      .optional 4 "end" .int32]
  | extensionRangeOptions => [.messages 999 "uninterpreted_option" .uninterpretedOption]
  | oneofOptions => [.messages 999 "uninterpreted_option" .uninterpretedOption]
  | enumValueOptions => [
      .optional 1 "deprecated" .bool, .messages 999 "uninterpreted_option" .uninterpretedOption]
  | methodOptions => [
      .optional 33 "deprecated" .bool, .optional 34 "idempotency_level" .int32,
      .messages 999 "uninterpreted_option" .uninterpretedOption]
  | namePart => [.required 1 "name_part" .text, .required 2 "is_extension" .bool]

/-- How messages name a field of a kind. -/
def place (kind : Kind) (field : Field) : Place := ⟨kind.name, field.name⟩

/-- The numbers in a table increase, so a number denotes at most one field of a kind. -/
theorem numbers_increase (kind : Kind) :
    (kind.fields.map Field.number).Pairwise (· < ·) := by
  cases kind <;> decide

end Kind

end DeviceGen.Descriptor
