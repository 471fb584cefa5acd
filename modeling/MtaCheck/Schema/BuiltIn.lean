import MtaCheck.Schema

/-!
# The schema of deployment descriptors

The schema that descriptors are validated against, unless another one is given.
-/

namespace MtaCheck

/-- The lines of the schema of deployment descriptors. -/
def descriptorSchemaLines : List String :=
  [ "type: map",
    "mapping:",
    "  _schema-version: \x7brequired: true, pattern: '/^[0-9]+(\\.[0-9]+)\x7b0,2\x7d$/'\x7d",
    "  ID: \x7brequired: true, pattern: '/^[A-Za-z0-9_\\-\\.]+$/'\x7d",
    "  description:",
    "  version: \x7brequired: true, pattern: '/^(0|[1-9]\\d*)\\.(0|[1-9]\\d*)\\.(0|[1-9]\\d*)(-(0|[1-9]\\d*|\\d*[a-zA-Z-][0-9a-zA-Z-]*)(\\.(0|[1-9]\\d*|\\d*[a-zA-Z-][0-9a-zA-Z-]*))*)?(\\+[0-9a-zA-Z-]+(\\.[0-9a-zA-Z-]+)*)?$/'\x7d",
    "  provider:",
    "  copyright:",
    "  modules:",
    "    type: seq",
    "    sequence:",
    "      - type: map",
    "        mapping:",
    "          name: \x7brequired: true, pattern: '/^[A-Za-z0-9_\\-\\.]+$/'\x7d",
    "          type: \x7brequired: true\x7d",
    "          description:",
    "          path:",
    "          requires:",
    "            type: seq",
    "            sequence:",
    "              - type: map",
    "                mapping:",
    "                  name: \x7brequired: true\x7d",
    "                  group:",
    "                  list:",
    "          provides:",
    "            type: seq",
    "            sequence:",
    "              - type: map",
    "                mapping:",
    "                  name: \x7brequired: true, pattern: '/^[A-Za-z0-9_\\-\\.]+$/'\x7d",
    "                  public: \x7brequired: false, type: bool\x7d",
    "          build-parameters:",
    "            type: map",
    "            mapping:",
    "              builder:",
    "              ignore:",
    "                type: seq",
    "                sequence:",
    "                  - \x7brequired: true\x7d",
    "              supported-platforms:",
    "                type: seq",
    "                sequence:",
    "                  - \x7btype: enum, enums: [CF, NEO, XSA]\x7d",
    "              requires:",
    "                type: seq",
    "                sequence:",
    "                  - type: map",
    "                    mapping:",
    "                      name: \x7brequired: true\x7d",
    "                      target-path:",
    "  resources:",
    "    type: seq",
    "    sequence:",
    "      - type: map",
    "        mapping:",
    "          name: \x7brequired: true, pattern: '/^[A-Za-z0-9_\\-\\.]+$/'\x7d",
    "          type:",
    "          description:",
    "          optional: \x7btype: bool\x7d",
    "          active: \x7btype: bool\x7d",
    "          requires:",
    "            type: seq",
    "            sequence:",
    "              - type: map",
    "                mapping:",
    "                  name: \x7brequired: true\x7d" ]

/-- The text of the schema of deployment descriptors. -/
def descriptorSchemaText : String :=
  String.join (descriptorSchemaLines.map fun line => line ++ "\n")

/-- The compiled schema of deployment descriptors. -/
def CompiledSchema.descriptor : CompiledSchema := .ofText descriptorSchemaText

end MtaCheck
