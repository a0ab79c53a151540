import FlowBindings.Fault
import FlowBindings.Text.Form

/-!
# The head of a class file

Every class file begins alike: with the notice about rights, a note that it was
generated, its package and all imports that any class might need. Imports the class
does not need are taken out afterwards.
-/

namespace FlowBindings.ObjectModel.Source

open Text

def inTurn (parts : List (Outcome String)) : Outcome String := do
  pure (concat (← parts.mapM id))

/-- One text per element, one after another; the first that cannot be written
decides. -/
def eachInTurn {α : Type} (xs : List α) (f : α → Outcome String) : Outcome String := do
  pure (concat (← xs.mapM f))

def whenInTurn (condition : Bool) (text : Outcome String) : Outcome String :=
  if condition then text else pure ""

def notice : String := block r"
// Copyright (c) 2008 The Board of Trustees of The Leland Stanford Junior University
// Copyright (c) 2011, 2012 Open Networking Foundation
// Copyright (c) 2012, 2013 Big Switch Networks, Inc.
// This library was generated by the LoxiGen Compiler.
// See the file LICENSE.txt which should have been included in the source distribution
"

def generatedNote (kind : String) : String := form [("kind", kind)] r"
// Automatically generated by LOXI from template «kind»
// Do not modify
"

def importLines : String := block r"
|import java.util.Arrays;
|import java.util.Collections;
|import java.util.EnumSet;
|import java.util.Iterator;
|import java.util.List;
|import java.util.Set;
|import java.util.Map;
|import javax.annotation.Nullable;
|import javax.annotation.Nonnull;
|ιprotocol.*;
|ιprotocol.action.*;
|ιprotocol.actionid.*;
|ιprotocol.bsntlv.*;
|ιprotocol.errormsg.*;
|ιprotocol.meterband.*;
|ιprotocol.instruction.*;
|ιprotocol.instructionid.*;
|ιprotocol.match.*;
|ιprotocol.stat.*;
|ιprotocol.oxm.*;
|ιprotocol.oxs.*;
|ιprotocol.queueprop.*;
|ιtypes.*;
|ιutil.*;
|ιexceptions.*;
|import org.slf4j.Logger;
|import org.slf4j.LoggerFactory;
|import io.netty.buffer.ByteBuf;
|import io.netty.buffer.Unpooled;
|import com.google.common.collect.ImmutableList;
|import com.google.common.collect.ImmutableSet;
|import com.google.common.collect.Sets;
|import com.google.common.collect.AbstractIterator;
|import com.google.common.collect.UnmodifiableIterator;
|import com.google.common.hash.Funnel;
|import com.google.common.hash.PrimitiveSink;
"

def opening (kind package : String) : String :=
  notice ++ "\n" ++ generatedNote kind ++ "\npackage " ++ package ++ ";\n\n"

def head (kind package : String) : String := opening kind package ++ importLines

end FlowBindings.ObjectModel.Source
