import FlowBindings.Text.Basic

/-!
# The build file of the tests

How the test program is built. A command below a target begins with a tab, which
is why this text is written line by line.
-/

namespace FlowBindings.Loci.Support

def buildLines : List String :=
  ["LOCITEST_SRCS := $(wildcard src/*.c)",
   "LOCI_SRCS := $(wildcard ../loci/src/*.c)",
   "",
   "LOCITEST_OBJS := $(LOCITEST_SRCS:.c=.o)",
   "LOCI_OBJS := $(LOCI_SRCS:.c=.o)",
   "",
   "CFLAGS := -Wall -Werror -g -Os",
   "CFLAGS += -Iinc -I../loci/inc -I ../loci/src",
   "",
   "all: locitest",
   "",
   "locitest: $(LOCITEST_OBJS) loci.a",
   "\t$(CC) -Wl,--whole-archive $^ -Wl,--no-whole-archive -o $@",
   "",
   "loci.a: $(LOCI_OBJS)",
   "\tar rc $@ $^",
   "",
   "clean:",
   "\trm -f locitest loci.a $(LOCITEST_OBJS) $(LOCI_OBJS)",
   "",
   "# BSN build system magic",
   "MODULE := locitest"]

def buildFile : String := Text.concat (buildLines.map (· ++ "\n"))

end FlowBindings.Loci.Support
